import ReleaseListing.CommandLine
import ReleaseListing.Proofs.CommandLine.Scan

/-!
# Single listings on the command line

A request for a single listing can be written down, each option in any of its spellings and in any
order, and is read back as it is; and what is read as such a request has an input, and a place for
the page only if rows are removed (`parse_list`).
-/

namespace ReleaseListing

namespace CommandLine

/-! ## Numbers -/

theorem le_ofDigitChars (cs : List Char) (n : Nat) : n ≤ Nat.ofDigitChars 10 cs n := by
  induction cs generalizing n with
  | nil => exact Nat.le_refl n
  | cons c cs ih =>
    rw [Nat.ofDigitChars_cons]
    have := ih (10 * n + (c.toNat - '0'.toNat))
    omega

/-- Digits are read as the number that they write, unless it has more than 64 bits. -/
theorem readDigits_eq {n : Nat} {cs : List Char} (hd : ∀ c ∈ cs, c.isDigit = true)
    (h : Nat.ofDigitChars 10 cs n < Nat.pow 2 64) :
    readDigits n cs = .ok (Nat.ofDigitChars 10 cs n) := by
  induction cs generalizing n with
  | nil => rfl
  | cons c cs ih =>
    obtain ⟨hc, hcs⟩ := List.forall_mem_cons.1 hd
    rw [Nat.ofDigitChars_cons, Nat.mul_comm] at h ⊢
    have hfits : ¬Nat.pow 2 64 ≤ n * 10 + (c.toNat - '0'.toNat) :=
      Nat.not_le.2 ((le_ofDigitChars cs _).trans_lt h)
    rw [readDigits, hc]
    simp only [Bool.not_true, Bool.false_eq_true, if_false, if_neg hfits]
    exact ih hcs h

/-- A number of 64 bits is read back. -/
theorem readNumber_toString {n : Nat} (h : n < Nat.pow 2 64) :
    readNumber (toString n) = .ok n := by
  have hdigits : ∀ c ∈ Nat.toDigits 10 n, c.isDigit = true :=
    fun c hc => Nat.isDigit_of_mem_toDigits (by decide) (by decide) hc
  obtain ⟨c, cs, hcs⟩ := List.exists_cons_of_ne_nil (Nat.toDigits_ne_nil : Nat.toDigits 10 n ≠ [])
  have hplus : c ≠ '+' := by
    rintro rfl
    exact absurd (hdigits '+' (by simp [hcs])) (by decide)
  have hread : readNumber (toString n) = readDigits 0 (Nat.toDigits 10 n) := by
    rw [readNumber, Nat.toString_eq_ofList_toDigits, String.toList_ofList, hcs]
    split
    · simp_all
    · simp_all
    · rfl
  rw [hread, readDigits_eq hdigits (by rwa [Nat.ofDigitChars_ten_toDigits]),
    Nat.ofDigitChars_ten_toDigits]

end CommandLine

namespace ListRequest

open CommandLine

/-- The options of a request, by their names, with the values of those that it has. -/
def values (request : ListRequest) : List (String × Option String) :=
  [("pattern", some request.pattern), ("prefix", some request.start),
   ("strategy", some request.strategy.name), ("format", some request.style.name),
   ("record", request.record), ("separator", request.separator), ("base-url", request.baseUrl),
   ("assign", request.assign), ("docstring", request.docstring),
   ("remove-rows", if request.removesRows then some "true" else none),
   ("levels", request.levels.map toString), ("rewrite", request.remainder)]

/-- Values that need not be written. -/
def usualValues : List (String × String) :=
  [("prefix", ""), ("strategy", "path-tail"), ("format", "call")]

/-- The options of a request are written, in some order. -/
structure Gives (request : ListRequest) (written : List Spelling) : Prop where
  parameter : ∀ w ∈ written, w.parameter ∈ listParameters
  nodup : (written.map (·.parameter.name)).Nodup
  value : ∀ w ∈ written, (w.parameter.name, some w.value) ∈ request.values
  complete : ∀ name value, (name, some value) ∈ request.values →
    (∃ w ∈ written, w.entry = (name, value)) ∨ (name, value) ∈ usualValues

/-- The request can be made on the command line. -/
structure Valid (request : ListRequest) : Prop where
  input : request.input ≠ ""
  remainder : ∀ path ∈ request.remainder, path ≠ "" ∧ request.removesRows = true
  levels : ∀ n ∈ request.levels, n < Nat.pow 2 64

variable {request : ListRequest} {written : List Spelling}

theorem listParameters_distinct :
    Scan.Distinct (helpFlag :: listParameters.filter (·.form != .byPlace)) where
  names := by decide
  letters := by decide
  plain := by decide
  letter_ne := by decide

theorem values_names (request : ListRequest) :
    request.values.map (·.1) =
      ["pattern", "prefix", "strategy", "format", "record", "separator", "base-url", "assign",
       "docstring", "remove-rows", "levels", "rewrite"] := rfl

theorem values_nodup (request : ListRequest) : (request.values.map (·.1)).Nodup := by
  rw [values_names]
  decide

theorem input_not_mem (request : ListRequest) : "input" ∉ request.values.map (·.1) := by
  rw [values_names]
  decide

/-! ## What is written is read -/

/-- A name has one value. -/
theorem value_unique {name : String} {v w : Option String} (hv : (name, v) ∈ request.values)
    (hw : (name, w) ∈ request.values) : v = w :=
  (Prod.mk.inj (List.inj_on_of_nodup_map request.values_nodup hv hw rfl)).2

/-- What the scan of a request gives, the input first. -/
def given (request : ListRequest) (written : List Spelling) : List (String × String) :=
  ("input", request.input) :: (written.map (·.entry)).reverse

namespace Gives

theorem names_nodup (h : request.Gives written) :
    ("input" :: written.map (·.parameter.name)).Nodup := by
  refine List.nodup_cons.2 ⟨fun hm => ?_, h.nodup⟩
  obtain ⟨w, hw, hname⟩ := List.mem_map.1 hm
  exact request.input_not_mem (hname ▸ List.mem_map_of_mem (f := Prod.fst) (h.value w hw))

theorem given_nodup (h : request.Gives written) :
    ((request.given written).map (·.1)).Nodup := by
  rw [given, List.map_cons, List.map_reverse, List.map_map, List.nodup_cons, List.mem_reverse,
    List.nodup_reverse]
  exact List.nodup_cons.1 h.names_nodup

theorem lookup_of_mem (h : request.Gives written) {w : Spelling} (hw : w ∈ written)
    {name value : String} (hentry : w.entry = (name, value)) :
    (request.given written).lookup name = some value := by
  rw [lookup_eq_some_iff_mem h.given_nodup, given, ← hentry]
  exact List.mem_cons_of_mem _ (List.mem_reverse.2 (List.mem_map_of_mem hw))

/-- What is given for an option is its value. -/
theorem mem_values (h : request.Gives written) {name : String} {v : Option String}
    (hv : (name, v) ∈ request.values) {value : String}
    (hl : (request.given written).lookup name = some value) :
    (name, some value) ∈ request.values := by
  rw [lookup_eq_some_iff_mem h.given_nodup, given, List.mem_cons, List.mem_reverse] at hl
  rcases hl with heq | hmem
  · obtain ⟨rfl, -⟩ := Prod.mk.inj heq
    exact absurd (List.mem_map_of_mem (f := Prod.fst) hv) request.input_not_mem
  · obtain ⟨w, hw, hentry⟩ := List.mem_map.1 hmem
    obtain ⟨rfl, rfl⟩ := Prod.mk.inj hentry
    exact h.value w hw

/-- An option that has a value is given, unless the value is the usual one. -/
theorem lookup_some (h : request.Gives written) {name value : String}
    (hv : (name, some value) ∈ request.values) :
    (request.given written).lookup name = some value ∨
      (request.given written).lookup name = none ∧ (name, value) ∈ usualValues := by
  rcases h.complete name value hv with ⟨w, hw, hentry⟩ | husual
  · exact .inl (h.lookup_of_mem hw hentry)
  · cases hl : (request.given written).lookup name with
    | none => exact .inr ⟨rfl, husual⟩
    | some other => exact .inl (value_unique (h.mem_values hv hl) hv ▸ rfl)

/-- An option without a value is not given. -/
theorem lookup_none (h : request.Gives written) {name : String}
    (hv : (name, none) ∈ request.values) : (request.given written).lookup name = none := by
  cases hl : (request.given written).lookup name with
  | none => rfl
  | some other => cases value_unique (h.mem_values hv hl) hv

/-- What is given for an option that has no usual value. -/
theorem lookup_plain (h : request.Gives written) {name : String} {v : Option String}
    (hv : (name, v) ∈ request.values) (hname : name ∉ usualValues.map (·.1)) :
    (request.given written).lookup name = v := by
  cases v with
  | none => exact h.lookup_none hv
  | some value =>
    refine (h.lookup_some hv).resolve_right fun husual => hname ?_
    exact List.mem_map_of_mem (f := Prod.fst) husual.2

/-- What is read for an option that need not be written: only its usual value is left out. -/
theorem read_lookup {α : Type} (h : request.Gives written) {name value : String}
    {read : String → Option α} {a usual : α} (hv : (name, some value) ∈ request.values)
    (hread : read value = some a) (husual : (name, value) ∈ usualValues → a = usual) :
    (((request.given written).lookup name).bind read).getD usual = a := by
  rcases h.lookup_some hv with hl | ⟨hl, hleft⟩
  · rw [hl, Option.bind_some, hread]
    rfl
  · rw [hl, husual hleft]
    rfl

end Gives

/-- How the parameters of a single listing are checked. -/
theorem check_cases {p : Parameter} (hp : p ∈ listParameters) :
    p.check = (fun _ => .ok ()) ∨
      (p.name = "strategy" ∧ p.check = checkNamed Strategy.ofName) ∨
      (p.name = "format" ∧ p.check = checkNamed Style.ofName) ∨
      (p.name = "levels" ∧ p.check = checkNumber) ∨
      (p.name = "rewrite" ∧ p.check = checkPath) ∨ p.name = "input" := by
  simp only [listParameters, List.mem_cons, List.not_mem_nil, or_false] at hp
  rcases hp with rfl | rfl | rfl | rfl | rfl | rfl | rfl | rfl | rfl | rfl | rfl | rfl | rfl <;>
    simp [textOption, remainderParameter, inputParameter]

/-- The values of a request that can be made pass their checks. -/
theorem accepts (hvalid : request.Valid) {p : Parameter} (hp : p ∈ listParameters) {value : String}
    (hv : (p.name, some value) ∈ request.values) : p.Accepts value := by
  rcases check_cases hp with hcheck | ⟨hname, hcheck⟩ | ⟨hname, hcheck⟩ | ⟨hname, hcheck⟩ |
    ⟨hname, hcheck⟩ | hname
  · rw [Parameter.Accepts, hcheck]
  · rw [hname] at hv
    obtain rfl := Option.some.inj (value_unique hv (by simp [values]) : _ = some request.strategy.name)
    rw [Parameter.Accepts, hcheck]
    cases request.strategy <;> rfl
  · rw [hname] at hv
    obtain rfl := Option.some.inj (value_unique hv (by simp [values]) : _ = some request.style.name)
    rw [Parameter.Accepts, hcheck]
    cases request.style <;> rfl
  · rw [hname] at hv
    have hlevels : some value = request.levels.map toString := value_unique hv (by simp [values])
    obtain ⟨n, hn, rfl⟩ := Option.map_eq_some_iff.1 hlevels.symm
    rw [Parameter.Accepts, hcheck, checkNumber, readNumber_toString (hvalid.levels n hn)]
  · rw [hname] at hv
    have hpath : some value = request.remainder := value_unique hv (by simp [values])
    have hne := (hvalid.remainder value hpath.symm).1
    rw [Parameter.Accepts, hcheck, checkPath]
    simp [hne]
  · rw [hname] at hv
    exact absurd (List.mem_map_of_mem (f := Prod.fst) hv) request.input_not_mem

/-- What the scan of a written request gives. -/
theorem scan_given (hvalid : request.Valid) (h : request.Gives written) :
    scan listParameters (written.flatMap (·.words) ++ ["--", request.input]) =
      .ok (request.given written) := by
  refine scan_spelled listParameters_distinct rfl h.parameter (fun w hw => ?_) h.names_nodup ?_ ?_
  · exact accepts hvalid (h.parameter w hw) (h.value w hw)
  · simp [Parameter.Accepts, checkPath, inputParameter, hvalid.input]
  · intro p hp hrequired
    have hname : p.name = "input" ∨ p.name = "pattern" := by
      revert p
      decide
    rcases hname with hname | hname
    · exact hname ▸ List.mem_cons_self
    · rcases h.complete "pattern" request.pattern (by simp [values]) with ⟨w, hw, hentry⟩ | husual
      · rw [hname, ← (Prod.mk.inj hentry).1]
        exact List.mem_cons_of_mem _ (List.mem_map_of_mem hw)
      · simp [usualValues] at husual

/-- The request that names and values make. -/
def ofGiven (given : List (String × String)) : ListRequest :=
  let value (name : String) : Option String := given.lookup name
  { input := (value "input").getD ""
    pattern := (value "pattern").getD ""
    start := (value "prefix").getD ""
    strategy := ((value "strategy").bind fun s => (Strategy.ofName s).toOption).getD .pathTail
    style := ((value "format").bind fun s => (Style.ofName s).toOption).getD .call
    record := value "record"
    separator := value "separator"
    baseUrl := value "base-url"
    assign := value "assign"
    docstring := value "docstring"
    removesRows := (value "remove-rows").isSome
    levels := (value "levels").bind fun s => (readNumber s).toOption
    remainder := value "rewrite" }

/-- A single listing is what a scan gives, as long as rows are removed if the page has a place. -/
theorem readList_eq_ok_iff {arguments : List String} {command : Command} :
    readList arguments = .ok command ↔
      ∃ given, scan listParameters arguments = .ok given ∧
        ((given.lookup "rewrite").isSome = true → (given.lookup "remove-rows").isSome = true) ∧
        command = .list (ofGiven given) := by
  constructor
  · intro h
    obtain ⟨given, hscan, h⟩ := exists_of_bind_eq_ok h
    refine ⟨given, hscan, ?_⟩
    dsimp only at h
    split at h
    · cases h
    · rename_i himplied
      refine ⟨fun hremainder => ?_, (Except.ok.inj h).symm⟩
      simpa only [hremainder, Bool.true_and, Bool.not_eq_true, Bool.not_eq_false'] using himplied
  · rintro ⟨given, hscan, himplied, rfl⟩
    rw [readList, hscan]
    have hnot : ((given.lookup "rewrite").isSome && !(given.lookup "remove-rows").isSome) = false := by
      cases hremainder : (given.lookup "rewrite").isSome with
      | false => rfl
      | true => rw [himplied hremainder]; rfl
    simp only [bind, Except.bind, hnot]
    rfl

/-- The values of a written request make the request. -/
theorem ofGiven_given (hvalid : request.Valid) (h : request.Gives written) :
    ofGiven (request.given written) = request := by
  have hpattern := h.lookup_plain (show ("pattern", some request.pattern) ∈ _ by simp [values])
    (by decide)
  have hrecord := h.lookup_plain (show ("record", request.record) ∈ _ by simp [values]) (by decide)
  have hseparator :=
    h.lookup_plain (show ("separator", request.separator) ∈ _ by simp [values]) (by decide)
  have hbase := h.lookup_plain (show ("base-url", request.baseUrl) ∈ _ by simp [values]) (by decide)
  have hassign := h.lookup_plain (show ("assign", request.assign) ∈ _ by simp [values]) (by decide)
  have hdocstring :=
    h.lookup_plain (show ("docstring", request.docstring) ∈ _ by simp [values]) (by decide)
  have hremoves := h.lookup_plain
    (show ("remove-rows", if request.removesRows then some "true" else none) ∈ _ by simp [values])
    (by decide)
  have hlevels := h.lookup_plain
    (show ("levels", request.levels.map toString) ∈ _ by simp [values]) (by decide)
  have hremainder :=
    h.lookup_plain (show ("rewrite", request.remainder) ∈ _ by simp [values]) (by decide)
  have hstart : ((request.given written).lookup "prefix").getD "" = request.start := by
    have hread := h.read_lookup (show ("prefix", some request.start) ∈ _ by simp [values])
      (rfl : some request.start = _) fun husual =>
        show request.start = "" by simpa [usualValues] using husual
    rwa [Option.bind_fun_some] at hread
  have hstrategy : (((request.given written).lookup "strategy").bind fun s =>
      (Strategy.ofName s).toOption).getD .pathTail = request.strategy := by
    refine h.read_lookup (show ("strategy", some request.strategy.name) ∈ _ by simp [values])
      (by cases request.strategy <;> rfl) fun husual => ?_
    cases hr : request.strategy with
    | pathTail => rfl
    | label => simp [hr, usualValues, Strategy.name] at husual
  have hstyle : (((request.given written).lookup "format").bind fun s =>
      (Style.ofName s).toOption).getD .call = request.style := by
    refine h.read_lookup (show ("format", some request.style.name) ∈ _ by simp [values])
      (by cases request.style <;> rfl) fun husual => ?_
    cases hr : request.style with
    | call => rfl
    | json => simp [hr, usualValues, Style.name] at husual
  have hnumber : (request.levels.map toString).bind (fun s => (readNumber s).toOption) =
      request.levels := by
    cases hr : request.levels with
    | none => rfl
    | some n =>
      rw [Option.map_some, Option.bind_some, readNumber_toString (hvalid.levels n hr)]
      rfl
  simp only [ofGiven, hpattern, hrecord, hseparator, hbase, hassign, hdocstring, hremoves, hlevels,
    hremainder, hstart, hstrategy, hstyle, hnumber]
  cases request with
  | mk input pattern start strategy style record separator baseUrl assign docstring removesRows =>
    cases removesRows <;> rfl

/-- A request is read back. -/
theorem readList_given (hvalid : request.Valid) (h : request.Gives written) :
    readList (written.flatMap (·.words) ++ ["--", request.input]) = .ok (.list request) := by
  rw [readList_eq_ok_iff]
  have hmade := ofGiven_given hvalid h
  refine ⟨_, scan_given hvalid h, fun hremainder => ?_, by rw [hmade]⟩
  obtain ⟨path, hpath⟩ := Option.isSome_iff_exists.1 hremainder
  have hrequest : request.remainder = some path := by rw [← hmade]; exact hpath
  have hremoves : (ofGiven (request.given written)).removesRows = true := by
    rw [hmade]
    exact (hvalid.remainder path hrequest).2
  exact hremoves

/-! ## What is read is sound -/

/-- A request that has been read has an input, and rows are removed if the page has a place. -/
theorem readList_sound {arguments : List String} (h : readList arguments = .ok (.list request)) :
    request.input ≠ "" ∧
      ∀ path ∈ request.remainder, path ≠ "" ∧ request.removesRows = true := by
  obtain ⟨given, hscan, himplied, hcommand⟩ := readList_eq_ok_iff.1 h
  obtain rfl := Command.list.inj hcommand
  obtain ⟨hsound, hrequired⟩ := scan_sound hscan
  have hpath : ∀ name, name = "input" ∨ name = "rewrite" → ∀ value,
      given.lookup name = some value → value ≠ "" := by
    intro name hname value hl
    obtain ⟨before, behind, rfl, -⟩ := List.lookup_eq_some_iff.1 hl
    obtain ⟨p, hp, hpname, haccepts⟩ := hsound (name, value) (by simp)
    have hcheck : ∀ p ∈ listParameters, p.name = "input" ∨ p.name = "rewrite" →
        p.check = checkPath := by
      intro p hp hname
      simp only [listParameters, List.mem_cons, List.not_mem_nil, or_false] at hp
      rcases hp with rfl | rfl | rfl | rfl | rfl | rfl | rfl | rfl | rfl | rfl | rfl | rfl | rfl <;>
        first | rfl | simp [textOption] at hname
    rw [Parameter.Accepts, hcheck p hp (hpname ▸ hname)] at haccepts
    rintro rfl
    cases haccepts
  obtain ⟨input, hinput⟩ := hrequired inputParameter (by simp [listParameters]) rfl
  constructor
  · show (given.lookup "input").getD "" ≠ ""
    rw [show given.lookup "input" = some input from hinput]
    exact hpath "input" (.inl rfl) input hinput
  · intro path hp
    have hlookup : given.lookup "rewrite" = some path := hp
    exact ⟨hpath "rewrite" (.inr rfl) path hlookup, himplied (by rw [hlookup]; rfl)⟩

/-- Of the subcommands only `list` reads a single listing. -/
theorem readList_of_subcommand {name : String} {read : List String → Except Error Command}
    (hmem : (name, read) ∈ subcommands) {rest : List String}
    (h : read rest = .ok (.list request)) : name = "list" ∧ read = readList := by
  simp only [subcommands, List.mem_cons, List.not_mem_nil, or_false, Prod.mk.injEq] at hmem
  rcases hmem with hmem | ⟨-, rfl⟩ | ⟨-, rfl⟩ | ⟨-, rfl⟩ | ⟨-, rfl⟩
  · exact hmem
  · obtain ⟨given, -, h⟩ := exists_of_bind_eq_ok h
    cases h
  · obtain ⟨given, -, h⟩ := exists_of_bind_eq_ok h
    cases h
  · obtain ⟨given, -, h⟩ := exists_of_bind_eq_ok h
    cases h
  · obtain ⟨given, -, h⟩ := exists_of_bind_eq_ok h
    split at h <;> cases h

/-- Help is never the start of a command. -/
theorem readHelp_ne_ok (arguments : List String) (command : Command) :
    readHelp arguments ≠ .ok command := by
  cases arguments with
  | nil => simp [readHelp]
  | cons name rest =>
    rw [readHelp.eq_def]
    cases rest <;> dsimp only <;> split <;> simp

theorem readList_of_parse {arguments : List String}
    (h : parse arguments = .ok (.list request)) :
    ∃ rest, arguments = "list" :: rest ∧ readList rest = .ok (.list request) := by
  unfold parse at h
  split at h
  · cases h
  · rename_i first rest
    split at h
    · rename_i read hread
      obtain ⟨before, behind, hsplit, -⟩ := List.lookup_eq_some_iff.1 hread
      have hmem : (first, read) ∈ subcommands := by simp [hsplit]
      obtain ⟨rfl, rfl⟩ := readList_of_subcommand hmem h
      exact ⟨rest, rfl, h⟩
    · split at h <;> cases h
    · obtain ⟨u, -, h⟩ := exists_of_bind_eq_ok h
      cases h
    · split at h
      · exact absurd h (readHelp_ne_ok rest _)
      · cases h

/-- **Command lines of single listings lose nothing and admit nothing else.** A request that can be
made is read back from its options, each in any of its spellings and in any order, and its input
behind `--`. All arguments that are read as a request for a single listing give an input, and a
place for the page only together with the removal of rows. -/
theorem parse_list :
    (∀ (request : ListRequest) (written : List Spelling), request.Valid → request.Gives written →
      parse ("list" :: written.flatMap (·.words) ++ ["--", request.input]) =
        .ok (.list request)) ∧
    ∀ (arguments : List String) (request : ListRequest), parse arguments = .ok (.list request) →
      request.input ≠ "" ∧
        ∀ path ∈ request.remainder, path ≠ "" ∧ request.removesRows = true := by
  refine ⟨fun request written hvalid h => ?_, fun arguments request h => ?_⟩
  · exact readList_given hvalid h
  · obtain ⟨rest, -, hread⟩ := readList_of_parse h
    exact readList_sound hread

/-- A pattern that looks like a request for help, options behind it, and an input that is told
apart from options by the dashes in front of it. -/
theorem parse_list_help_pattern :
    let request : ListRequest :=
      { input := "--format", pattern := "--help", separator := some "=", removesRows := true
        levels := some 18446744073709551615, remainder := some "-" }
    parse ["list", "--separator==", "-p", "--help", "--rewrite=-", "--remove-rows",
      "--levels=18446744073709551615", "--", "--format"] = .ok (.list request) ∧
      request.input ≠ "" ∧ ∀ path ∈ request.remainder, path ≠ "" ∧ request.removesRows = true := by
  intro request
  let pattern : Parameter :=
    { name := "pattern", form := .option true, letter := some 'p', valueName := "PATTERN"
      required := true }
  let levels : Parameter := { textOption "levels" "N" with check := checkNumber }
  let written : List Spelling :=
    [⟨textOption "separator" "SEPARATOR", "=", _, .attached false rfl "="⟩,
     ⟨pattern, "--help", _, .behindLetter rfl 'p' rfl "--help"⟩,
     ⟨remainderParameter, "-", _, .attached false rfl "-"⟩,
     ⟨{ name := "remove-rows", form := .flag }, "true", _, .flag rfl⟩,
     ⟨levels, "18446744073709551615", _, .attached false rfl "18446744073709551615"⟩]
  have hvalid : request.Valid := ⟨by decide, by decide, by decide⟩
  have hgives : request.Gives written := by
    refine ⟨fun w hw => ?_, by decide, by decide, fun name value hv => ?_⟩
    · simp only [written, List.mem_cons, List.not_mem_nil, or_false] at hw
      rcases hw with rfl | rfl | rfl | rfl | rfl <;> simp [listParameters, pattern, levels]
    · simp [values, request, Style.name, Strategy.name] at hv
      rcases hv with ⟨rfl, rfl⟩ | ⟨rfl, rfl⟩ | ⟨rfl, rfl⟩ | ⟨rfl, rfl⟩ | ⟨rfl, rfl⟩ | ⟨rfl, rfl⟩ |
        ⟨rfl, rfl⟩ | ⟨rfl, rfl⟩ <;>
      simp [written, usualValues, Spelling.entry, textOption, pattern, levels, remainderParameter]
      -- The number of levels, written out.
      rfl
  have hparse := parse_list.1 request written hvalid hgives
  exact ⟨hparse, parse_list.2 _ request hparse⟩

end ListRequest

end ReleaseListing
