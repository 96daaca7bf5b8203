import Mathlib.Data.List.Nodup
import Mathlib.Data.List.TakeWhile
import ReleaseListing.CommandLine.Arguments
import ReleaseListing.Proofs.Reading

/-!
# What a scan of arguments gives

A scan gives what is written, and nothing else:

* `foldlM_spelled`, `scan_spelled`: options that are written one after the other, each in one of
  its spellings (`Parameter.Spells`), and then the values of the parameters by place behind `--`,
  are given with their values;
* `scan_sound`: all that is given belongs to a parameter and has passed its check, and every
  parameter that is required is given.
-/

namespace ReleaseListing.CommandLine

/-! ## Spellings -/

namespace Parameter

/-- The ways to write a parameter that is no parameter by place, with its value. -/
inductive Spells (p : Parameter) : (value : String) → (words : List String) → Prop
  | flag (h : p.form = .flag) : Spells p "true" ["--" ++ p.name]
  | attached (dashes : Bool) (h : p.form = .option dashes) (value : String) :
      Spells p value ["--" ++ p.name ++ "=" ++ value]
  | behind (h : p.form = .option true) (value : String) : Spells p value ["--" ++ p.name, value]
  | behindLetter (h : p.form = .option true) (c : Char) (hc : p.letter = some c)
      (value : String) : Spells p value [String.ofList ['-', c], value]

/-- A value passes the check of its parameter. -/
def Accepts (p : Parameter) (value : String) : Prop := p.check value = .ok ()

theorem validate_of_accepts {p : Parameter} {value : String} (h : p.Accepts value) :
    p.validate value = .ok () := by
  rw [validate, h]

theorem accepts_of_validate {p : Parameter} {value : String} (h : p.validate value = .ok ()) :
    p.Accepts value := by
  unfold validate at h
  split at h
  · assumption
  all_goals cases h

end Parameter

/-- A parameter as it is written with a value. -/
structure Spelling where
  parameter : Parameter
  value : String
  words : List String
  spells : parameter.Spells value words

/-- The name and the value that are written. -/
def Spelling.entry (w : Spelling) : String × String := (w.parameter.name, w.value)

theorem Spelling.form_ne (w : Spelling) : w.parameter.form ≠ .byPlace := by
  obtain ⟨p, value, words, h⟩ := w
  cases h <;> simp_all

namespace Scan

variable {options : List Parameter} {s t : Scan} {p : Parameter} {value : String}
  {given : List (String × String)} {places : List Parameter}

/-! ## What is written is given -/

/-- Options that can be told apart by their names and letters. -/
structure Distinct (options : List Parameter) : Prop where
  names : (options.map (·.name)).Nodup
  letters : (options.filterMap (·.letter)).Nodup
  /-- A name ends where the value is attached. -/
  plain : ∀ p ∈ options, p.name ≠ "" ∧ '=' ∉ p.name.toList
  letter_ne : ∀ p ∈ options, p.letter ≠ some '-'

theorem Distinct.find?_name (h : Distinct options) (hp : p ∈ options) :
    options.find? (·.name == p.name) = some p := by
  cases hf : options.find? (·.name == p.name) with
  | none => simpa using List.find?_eq_none.1 hf p hp
  | some q =>
    have hname : q.name = p.name := by simpa using List.find?_some hf
    rw [List.inj_on_of_nodup_map h.names (List.mem_of_find?_eq_some hf) hp hname]

theorem Distinct.find?_letter (h : Distinct options) (hp : p ∈ options) {c : Char}
    (hc : p.letter = some c) : options.find? (·.letter == some c) = some p := by
  have hnodup := h.letters
  clear h
  induction options with
  | nil => cases hp
  | cons q options ih =>
    rcases List.mem_cons.1 hp with rfl | hp
    · simp [hc]
    · cases hq : q.letter with
      | none =>
        rw [List.filterMap_cons_none hq] at hnodup
        rw [List.find?_cons_of_neg (by simp [hq]), ih hp hnodup]
      | some d =>
        rw [List.filterMap_cons_some hq, List.nodup_cons] at hnodup
        have hne : d ≠ c := by
          rintro rfl
          exact hnodup.1 (List.mem_filterMap.2 ⟨p, hp, hc⟩)
        rw [List.find?_cons_of_neg (by simp [hq, hne]), ih hp hnodup.2]

/-- What the scan gives once the parameter read last has been looked at. -/
structure Settled (s : Scan) (given : List (String × String)) (places : List Parameter) :
    Prop where
  settle : s.settle = .ok { given, places }
  places : s.places = places
  placesOnly : s.placesOnly = false

/-- No value is waited for. -/
theorem Settled.wantsAny (h : s.Settled given places) : s.wantsAny = false := by
  have hs := h.settle
  unfold Scan.settle at hs
  unfold Scan.wantsAny
  split at hs
  · simp_all
  · cases hs
  · simp_all

theorem settled_start (places : List Parameter) : ({ places } : Scan).Settled [] places where
  settle := rfl
  places := rfl
  placesOnly := rfl

/-- A scan that has nothing left to look at is settled. -/
theorem settled_of_given (given : List (String × String)) (places : List Parameter) :
    ({ given, places } : Scan).Settled given places where
  settle := rfl
  places := rfl
  placesOnly := rfl

/-- A value that passes its check is taken if its parameter has not been given. -/
theorem take_eq (s : Scan) (h : p.Accepts value) (hnew : s.given.lookup p.name = none) :
    s.take p value = .ok { s with given := (p.name, value) :: s.given } := by
  rw [take, hnew, Parameter.validate_of_accepts h]
  rfl

theorem settled_pending (h : p.Accepts value) (hnew : given.lookup p.name = none) :
    ({ pending := some (p, some value), given, places } : Scan).Settled
      ((p.name, value) :: given) places where
  settle := take_eq { given, places } h hnew
  places := rfl
  placesOnly := rfl

/-- An argument that starts with two dashes names an option. -/
theorem step_named (h : s.Settled given places) (c : Char) (word : List Char) :
    step options s (String.ofList ('-' :: '-' :: c :: word)) =
      takeNamed options s (c :: word) := by
  rw [step, h.placesOnly, h.wantsAny, String.toList_ofList]
  rfl

theorem Distinct.ne_equals (h : Distinct options) (hp : p ∈ options) :
    ∀ c ∈ p.name.toList, (c != '=') = true := by
  intro c hc
  simp only [bne_iff_ne, ne_eq]
  rintro rfl
  exact (h.plain p hp).2 hc

/-- A word that is the name of an option, or starts with it and an equals sign. -/
theorem step_name (hd : Distinct options) (hp : p ∈ options) (h : s.Settled given places)
    (tail : List Char) :
    step options s ("--" ++ p.name ++ String.ofList tail) =
      takeNamed options s (p.name.toList ++ tail) := by
  obtain ⟨c, name, hname⟩ : ∃ c name, p.name.toList = c :: name :=
    List.exists_cons_of_ne_nil (by simpa using (hd.plain p hp).1)
  rw [hname, List.cons_append, ← step_named h]
  congr 1
  apply String.toList_inj.1
  simp [hname]

/-- A word that is the name of an option. -/
theorem step_word (hd : Distinct options) (hp : p ∈ options) (h : s.Settled given places) :
    step options s ("--" ++ p.name) =
      match p.form with
      | .flag => s.takeFlag p
      | _ => s.takeOption p none := by
  have hname := step_name hd hp h []
  rw [List.append_nil, takeNamed, List.takeWhile_eq_self_iff.2 (hd.ne_equals hp),
    List.dropWhile_eq_nil_iff.2 (hd.ne_equals hp), String.ofList_toList,
    hd.find?_name hp] at hname
  cases hform : p.form <;> simpa [hform] using hname

/-- An option with its value behind an equals sign. -/
theorem step_attached (hd : Distinct options) (hp : p ∈ options) (h : s.Settled given places)
    {dashes : Bool} (hform : p.form = .option dashes) (value : String) :
    step options s ("--" ++ p.name ++ "=" ++ value) = s.takeOption p (some value) := by
  have hname := step_name hd hp h ('=' :: value.toList)
  rw [takeNamed, List.takeWhile_append_of_pos (hd.ne_equals hp),
    List.dropWhile_append_of_pos (hd.ne_equals hp)] at hname
  have hword : "--" ++ p.name ++ "=" ++ value =
      "--" ++ p.name ++ String.ofList ('=' :: value.toList) := by
    apply String.toList_inj.1
    simp
  rw [hword, hname]
  simp [hd.find?_name hp, hform]

/-- The letter of an option whose value comes next. -/
theorem step_letter (hd : Distinct options) (hp : p ∈ options) (h : s.Settled given places)
    {dashes : Bool} (hform : p.form = .option dashes) {c : Char} (hc : p.letter = some c) :
    step options s (String.ofList ['-', c]) = s.takeOption p none := by
  have hne : c ≠ '-' := by
    rintro rfl
    exact hd.letter_ne p hp hc
  rw [step, h.placesOnly, h.wantsAny, String.toList_ofList]
  simp [hne, takeLetters, hd.find?_letter hp hc, hform]

/-- A value that comes next may be any argument if the option allows it. -/
theorem foldlM_behind (h : s.Settled given places) {word : String}
    (hword : step options s word = s.takeOption p none) (hform : p.form = .option true)
    (ha : p.Accepts value) (hnew : given.lookup p.name = none) :
    ∃ t, [word, value].foldlM (step options) s = .ok t ∧
      t.Settled ((p.name, value) :: given) places := by
  refine ⟨_, ?_, settled_pending ha hnew⟩
  simp only [List.foldlM_cons, List.foldlM_nil, hword, takeOption, h.settle]
  simp [bind, Except.bind, pure, Except.pure, step, wantsAny, hform, takeValue]

/-- An option in any of its spellings is given with its value. -/
theorem foldlM_spells (hd : Distinct options) (hp : p ∈ options) (hhelp : p.name ≠ helpFlag.name)
    (h : s.Settled given places) {words : List String} (hw : p.Spells value words)
    (ha : p.Accepts value) (hnew : given.lookup p.name = none) :
    ∃ t, words.foldlM (step options) s = .ok t ∧ t.Settled ((p.name, value) :: given) places := by
  have htake : ({ given, places } : Scan).take p value =
      .ok { given := (p.name, value) :: given, places } := take_eq _ ha hnew
  cases hw with
  | flag hform =>
    refine ⟨_, ?_, settled_of_given _ _⟩
    simp [step_word hd hp h, hform, takeFlag, h.settle, hhelp, bind, Except.bind, htake, pure,
      Except.pure]
  | attached dashes hform =>
    refine ⟨_, ?_, settled_of_given _ _⟩
    simp only [List.foldlM_cons, List.foldlM_nil, step_attached hd hp h hform, takeOption, h.settle]
    simp [bind, Except.bind, htake, pure, Except.pure]
  | behind hform =>
    exact foldlM_behind h ((step_word hd hp h).trans (by rw [hform])) hform ha hnew
  | behindLetter hform c hc => exact foldlM_behind h (step_letter hd hp h hform hc) hform ha hnew

/-- Options one after the other are given with their values, the last one first. -/
theorem foldlM_spelled (hd : Distinct options) {written : List Spelling}
    (hoptions : ∀ w ∈ written, w.parameter ∈ options ∧ w.parameter.name ≠ helpFlag.name)
    (haccepts : ∀ w ∈ written, w.parameter.Accepts w.value)
    (hnodup : (written.map (·.parameter.name)).Nodup)
    (hnew : ∀ w ∈ written, given.lookup w.parameter.name = none) (h : s.Settled given places) :
    ∃ t, (written.flatMap (·.words)).foldlM (step options) s = .ok t ∧
      t.Settled ((written.map (·.entry)).reverse ++ given) places := by
  induction written generalizing s given with
  | nil => exact ⟨s, rfl, h⟩
  | cons w written ih =>
    obtain ⟨⟨hp, hhelp⟩, hoptions⟩ := List.forall_mem_cons.1 hoptions
    obtain ⟨ha, haccepts⟩ := List.forall_mem_cons.1 haccepts
    obtain ⟨hfirst, hlater⟩ := List.forall_mem_cons.1 hnew
    rw [List.map_cons, List.nodup_cons] at hnodup
    obtain ⟨t, ht, hsettled⟩ := foldlM_spells hd hp hhelp h w.spells ha hfirst
    have hstill : ∀ v ∈ written,
        List.lookup v.parameter.name ((w.parameter.name, w.value) :: given) = none := by
      intro v hv
      have hne : v.parameter.name ≠ w.parameter.name :=
        fun e => hnodup.1 (e ▸ List.mem_map_of_mem hv)
      rw [List.lookup_cons, beq_eq_false_iff_ne.2 hne]
      exact hlater v hv
    obtain ⟨u, hu, hend⟩ := ih hoptions haccepts hnodup.2 hstill hsettled
    refine ⟨u, ?_, by simpa [Spelling.entry] using hend⟩
    rw [List.flatMap_cons, List.foldlM_append, ht]
    exact hu

/-- What is taken by its place has no part in looking at the parameter read last. -/
theorem settle_placesOnly (h : s.settle = .ok t) (b : Bool) :
    ({ s with placesOnly := b } : Scan).settle = .ok { t with placesOnly := b } := by
  unfold settle at h ⊢
  split at h
  · cases h
    simp_all
  · cases h
  · rename_i q v hq
    simp only [hq]
    unfold take at h ⊢
    split at h
    · cases h
    · cases hv : q.validate v with
      | error e => simp [hv, bind, Except.bind] at h
      | ok u =>
        simp only [hv, bind, Except.bind, pure, Except.pure, Except.ok.injEq] at h
        subst h
        simp_all [bind, Except.bind, pure, Except.pure]

/-- A value by place, once all that comes before has been looked at. -/
theorem step_place (s : Scan) (hp : s.places = p :: places) (h : s.settle = .ok t)
    (value : String) (hplaces : s.placesOnly = true) :
    step options s value = .ok { t with pending := some (p, some value), places } := by
  rw [step, if_pos hplaces, takePlace, hp]
  simp [h, bind, Except.bind, pure, Except.pure]

/-- Behind `--` a value is taken for the next parameter by place. -/
theorem foldlM_place (options : List Parameter) (h : s.Settled given (p :: places))
    (hnew : given.lookup p.name = none) (ha : p.Accepts value) :
    ∃ t, ["--", value].foldlM (step options) s = .ok t ∧
      t.settle = .ok { given := (p.name, value) :: given, places, placesOnly := true } := by
  let behind : Scan := { pending := some (p, some value), given, places, placesOnly := true }
  have hdashes : step options s "--" = .ok { s with placesOnly := true } := by
    rw [step, h.placesOnly, h.wantsAny]
    rfl
  have hplace : step options { s with placesOnly := true } value = .ok behind :=
    step_place { s with placesOnly := true } h.places (settle_placesOnly h.settle true) value rfl
  refine ⟨behind, ?_, take_eq { given, places, placesOnly := true } ha hnew⟩
  simp [hdashes, hplace, bind, Except.bind, pure, Except.pure]

end Scan

/-- **What is written is given.** Options of a command, each in one of its spellings, and behind
`--` the value of its one parameter by place are given with their values, if all required ones are
among them. -/
theorem scan_spelled {parameters : List Parameter} {q : Parameter} {value : String}
    {written : List Spelling}
    (hd : Scan.Distinct (helpFlag :: parameters.filter (·.form != .byPlace)))
    (hplaces : parameters.filter (·.form == .byPlace) = [q])
    (hwritten : ∀ w ∈ written, w.parameter ∈ parameters)
    (haccepts : ∀ w ∈ written, w.parameter.Accepts w.value)
    (hnodup : (q.name :: written.map (·.parameter.name)).Nodup) (hq : q.Accepts value)
    (hrequired : ∀ p ∈ parameters, p.required = true →
      p.name ∈ q.name :: written.map (·.parameter.name)) :
    scan parameters (written.flatMap (·.words) ++ ["--", value]) =
      .ok ((q.name, value) :: (written.map (·.entry)).reverse) := by
  rw [List.nodup_cons] at hnodup
  have hnames := hd.names
  rw [List.map_cons, List.nodup_cons] at hnames
  have hoptions : ∀ w ∈ written, w.parameter ∈ helpFlag :: parameters.filter (·.form != .byPlace) ∧
      w.parameter.name ≠ helpFlag.name := by
    intro w hw
    have hmem : w.parameter ∈ parameters.filter (·.form != .byPlace) := by
      simp [hwritten w hw, w.form_ne]
    exact ⟨List.mem_cons_of_mem _ hmem, fun e => hnames.1 (e ▸ List.mem_map_of_mem hmem)⟩
  obtain ⟨s, hs, hsettled⟩ := Scan.foldlM_spelled hd hoptions haccepts hnodup.2 (by simp)
    (Scan.settled_start [q])
  rw [List.append_nil] at hsettled
  have hnew : ((written.map (·.entry)).reverse).lookup q.name = none := by
    rw [List.lookup_eq_none_iff]
    intro e he
    obtain ⟨w, hw, rfl⟩ := List.mem_map.1 (List.mem_reverse.1 he)
    rw [bne_iff_ne]
    exact fun heq => hnodup.1 (heq ▸ List.mem_map_of_mem hw)
  obtain ⟨t, ht, hend⟩ := Scan.foldlM_place
    (helpFlag :: parameters.filter (·.form != .byPlace)) hsettled hnew hq
  have hfold : (written.flatMap (·.words) ++ ["--", value]).foldlM
      (Scan.step (helpFlag :: parameters.filter (·.form != .byPlace))) { places := [q] } =
        .ok t := by
    rw [List.foldlM_append, hs]
    exact ht
  have hall : (parameters.any fun p => p.required &&
      (((q.name, value) :: (written.map (·.entry)).reverse).lookup p.name).isNone) = false := by
    rw [List.any_eq_false]
    intro p hp hmissing
    rw [Bool.and_eq_true, Option.isNone_iff_eq_none, List.lookup_eq_none_iff] at hmissing
    obtain ⟨hreq, hnone⟩ := hmissing
    rcases List.mem_cons.1 (hrequired p hp hreq) with heq | hmem
    · simpa [heq] using hnone _ List.mem_cons_self
    · obtain ⟨w, hw, heq⟩ := List.mem_map.1 hmem
      have hentry : w.entry ∈ (q.name, value) :: (written.map (·.entry)).reverse :=
        List.mem_cons_of_mem _ (List.mem_reverse.2 (List.mem_map_of_mem hw))
      simpa [Spelling.entry, heq] using hnone _ hentry
  rw [scan, hplaces]
  simp only [hfold, hend, bind, Except.bind, hall]
  rfl

/-! ## What is given is sound -/

namespace Scan

/-- All that has been read belongs to the parameters, and what is given has passed its check. -/
structure Sound (parameters : List Parameter) (s : Scan) : Prop where
  given : ∀ e ∈ s.given, ∃ p ∈ parameters, p.name = e.1 ∧ p.Accepts e.2
  pending : ∀ p v, s.pending = some (p, v) → p ∈ parameters
  places : ∀ p ∈ s.places, p ∈ parameters

variable {parameters options places : List Parameter} {s t : Scan} {p : Parameter}

theorem Sound.take (h : s.Sound parameters) (hp : p ∈ parameters) {value : String}
    (ht : s.take p value = .ok t) : t.Sound parameters := by
  unfold Scan.take at ht
  split at ht
  · cases ht
  · obtain ⟨u, hv, ht⟩ := exists_of_bind_eq_ok ht
    obtain rfl := Except.ok.inj ht
    refine ⟨?_, h.pending, h.places⟩
    exact List.forall_mem_cons.2
      ⟨⟨p, hp, rfl, Parameter.accepts_of_validate hv⟩, h.given⟩

theorem Sound.settle (h : s.Sound parameters) (ht : s.settle = .ok t) : t.Sound parameters := by
  unfold Scan.settle at ht
  split at ht
  · obtain rfl := Except.ok.inj ht
    exact h
  · cases ht
  · rename_i q v hq
    have hnone : ({ s with pending := none } : Scan).Sound parameters :=
      ⟨h.given, fun _ _ hn => (nomatch hn), h.places⟩
    exact hnone.take (h.pending q _ hq) ht

/-- A value that is not looked at yet. -/
theorem Sound.withPending (h : s.Sound parameters) (hp : p ∈ parameters) (value : Option String) :
    ({ s with pending := some (p, value) } : Scan).Sound parameters := by
  refine ⟨h.given, fun q v hq => ?_, h.places⟩
  obtain ⟨rfl, -⟩ := Prod.mk.inj (Option.some.inj hq)
  exact hp

theorem Sound.takeFlag (h : s.Sound parameters) (hp : p = helpFlag ∨ p ∈ parameters)
    (ht : s.takeFlag p = .ok t) : t.Sound parameters := by
  obtain ⟨u, hu, ht⟩ := exists_of_bind_eq_ok ht
  split at ht
  · cases ht
  · rename_i hname
    have hmem : p ∈ parameters := by
      refine hp.resolve_left ?_
      rintro rfl
      exact hname rfl
    exact (h.settle hu).take hmem ht

theorem Sound.takeOption (h : s.Sound parameters) (hp : p ∈ parameters) {attached : Option String}
    (ht : s.takeOption p attached = .ok t) : t.Sound parameters := by
  obtain ⟨u, hu, ht⟩ := exists_of_bind_eq_ok ht
  cases attached with
  | some value => exact (h.settle hu).take hp ht
  | none =>
    obtain rfl := Except.ok.inj ht
    exact (h.settle hu).withPending hp none

theorem Sound.takePlace (h : s.Sound parameters) {argument : String}
    (ht : s.takePlace argument = .ok t) : t.Sound parameters := by
  unfold Scan.takePlace at ht
  split at ht
  · cases ht
  · rename_i q rest hplaces
    obtain ⟨u, hu, ht⟩ := exists_of_bind_eq_ok ht
    obtain rfl := Except.ok.inj ht
    have hall := h.places
    rw [hplaces, List.forall_mem_cons] at hall
    have hrest : ({ u with places := rest } : Scan).Sound parameters :=
      ⟨(h.settle hu).given, (h.settle hu).pending, hall.2⟩
    exact hrest.withPending hall.1 _

theorem Sound.takeValue (h : s.Sound parameters) {argument : String}
    (ht : s.takeValue argument = .ok t) : t.Sound parameters := by
  unfold Scan.takeValue at ht
  split at ht
  · rename_i q hq
    obtain rfl := Except.ok.inj ht
    exact h.withPending (h.pending q none hq) _
  · exact h.takePlace ht

/-- An option that is found is the one that asks for help or a parameter, which takes a value. -/
theorem Sound.takeNamed (h : s.Sound parameters)
    (hoptions : ∀ p ∈ options, p = helpFlag ∨ p ∈ parameters) {text : List Char}
    (ht : takeNamed options s text = .ok t) : t.Sound parameters := by
  unfold Scan.takeNamed at ht
  cases hfind : options.find? (·.name == String.ofList (text.takeWhile (· != '='))) with
  | none => simp [hfind] at ht
  | some q =>
    have hq := hoptions q (List.mem_of_find?_eq_some hfind)
    simp only [hfind] at ht
    cases hform : q.form with
    | flag =>
      cases hvalue : text.dropWhile (· != '=') with
      | nil =>
        simp only [hform, hvalue] at ht
        exact h.takeFlag hq ht
      | cons c value => simp [hform, hvalue] at ht
    | byPlace | option dashes =>
      simp only [hform] at ht
      refine h.takeOption (hq.resolve_left ?_) ht
      rintro rfl
      cases hform

theorem Sound.takeLetters (h : s.Sound parameters)
    (hoptions : ∀ p ∈ options, p = helpFlag ∨ p ∈ parameters) {letters : List Char}
    (ht : takeLetters options s letters = .ok t) : t.Sound parameters := by
  induction letters generalizing s with
  | nil =>
    obtain rfl := Except.ok.inj ht
    exact h
  | cons c rest ih =>
    unfold Scan.takeLetters at ht
    split at ht
    · cases ht
    · rename_i q hfind
      have hq := hoptions q (List.mem_of_find?_eq_some hfind)
      split at ht
      · obtain ⟨u, hu, ht⟩ := exists_of_bind_eq_ok ht
        exact ih (h.takeFlag hq hu) ht
      · rename_i hform
        have hmem : q ∈ parameters := by
          refine hq.resolve_left ?_
          rintro rfl
          exact hform rfl
        split at ht <;> exact h.takeOption hmem ht

theorem Sound.step (h : s.Sound parameters)
    (hoptions : ∀ p ∈ options, p = helpFlag ∨ p ∈ parameters) {argument : String}
    (ht : step options s argument = .ok t) : t.Sound parameters := by
  unfold Scan.step at ht
  split at ht
  · exact h.takePlace ht
  split at ht
  · exact h.takeValue ht
  split at ht
  · obtain rfl := Except.ok.inj ht
    exact ⟨h.given, h.pending, h.places⟩
  · exact h.takeNamed hoptions ht
  · exact h.takeValue ht
  · exact h.takeLetters hoptions ht
  · exact h.takeValue ht

theorem Sound.foldlM (h : s.Sound parameters)
    (hoptions : ∀ p ∈ options, p = helpFlag ∨ p ∈ parameters) {arguments : List String}
    (ht : arguments.foldlM (Scan.step options) s = .ok t) : t.Sound parameters := by
  induction arguments generalizing s with
  | nil =>
    obtain rfl := Except.ok.inj ht
    exact h
  | cons argument arguments ih =>
    rw [List.foldlM_cons] at ht
    obtain ⟨u, hu, ht⟩ := exists_of_bind_eq_ok ht
    exact ih (h.step hoptions hu) ht

end Scan

/-- **What is given is sound.** Everything that a scan gives belongs to a parameter of its name and
has passed its check, and no required parameter is missing. -/
theorem scan_sound {parameters : List Parameter} {arguments : List String}
    {given : List (String × String)} (h : scan parameters arguments = .ok given) :
    (∀ e ∈ given, ∃ p ∈ parameters, p.name = e.1 ∧ p.Accepts e.2) ∧
      ∀ p ∈ parameters, p.required = true → ∃ value, given.lookup p.name = some value := by
  obtain ⟨s, hs, h⟩ := exists_of_bind_eq_ok h
  obtain ⟨t, ht, h⟩ := exists_of_bind_eq_ok h
  have hstart : ({ places := parameters.filter (·.form == .byPlace) } : Scan).Sound parameters :=
    ⟨by simp, by simp, fun p hp => List.mem_of_mem_filter hp⟩
  have hsound := (hstart.foldlM (fun p hp => ?_) hs).settle ht
  · split at h
    · cases h
    · rename_i hmissing
      obtain rfl := Except.ok.inj h
      refine ⟨hsound.given, fun p hp hrequired => Option.ne_none_iff_exists'.1 fun hnone => ?_⟩
      exact hmissing (List.any_eq_true.2 ⟨p, hp, by simp [hrequired, hnone]⟩)
  · exact (List.mem_cons.1 hp).imp_right List.mem_of_mem_filter

end ReleaseListing.CommandLine
