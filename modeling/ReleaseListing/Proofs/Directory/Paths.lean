import ReleaseListing.Proofs.Directory.Places
import ReleaseListing.Proofs.Reading

/-!
# The places that paths name

A directory decides whether a path leads anywhere, but not where: a path that leads to a place leads
to the one that it names (`place?_of_locate`). So what a change may touch can be said ahead of it.
`Footprint written fresh d e`: what is there in `d` is there in `e`, and no file differs but those at
the places `written`, and those at the places `fresh` that were not there. Every change leaves such a
footprint (`footprint_change`, `footprint_new`), and making directories leaves none
(`footprint_makeDirectories`).
-/

namespace ReleaseListing.Directory

variable {d d' e e' : Directory} {l l' : Location} {name path part : String}
  {f : List UInt8 → List UInt8} {parts : List String}

/-! ## Places by their paths -/

/-- The place that a name leads to from another place. -/
def next (l : Location) (name : String) : Location :=
  if name == "" || name == "." then l
  else if name == ".." then l.dropLast
  else l ++ [name]

/-- The place that a path names, whether there is a way to it or not. -/
def place? (name path : String) : Option Location := (names? name path).map (·.foldl next [])

/-- The place that a path names, if it names one. -/
def places (name path : String) : Set Location := {l | place? name path = some l}

theorem enter_eq_ok (h : d.enter l part = .ok l') : d.kindAt l = .directory ∧ l' = next l part := by
  unfold enter at h
  unfold next
  cases hk : d.kindAt l with
  | missing => simp [hk] at h
  | file bytes => simp [hk] at h
  | directory =>
    rw [hk] at h
    dsimp only at h
    refine ⟨rfl, ?_⟩
    by_cases hstay : (part == "" || part == ".") = true
    · rw [if_pos hstay] at h ⊢
      exact (Except.ok.inj h).symm
    · rw [if_neg hstay] at h ⊢
      by_cases hup : (part == "..") = true
      · rw [if_pos hup] at h ⊢
        exact (Except.ok.inj h).symm
      · rw [if_neg hup] at h ⊢
        split at h
        · cases h
        · exact (Except.ok.inj h).symm

theorem foldl_next_of_foldlM (h : parts.foldlM d.enter l = .ok l') : parts.foldl next l = l' := by
  induction parts generalizing l with
  | nil => exact Except.ok.inj h
  | cons part parts ih =>
    rw [List.foldlM_cons] at h
    obtain ⟨k, hk, hrest⟩ := exists_of_bind_eq_ok h
    obtain ⟨-, rfl⟩ := enter_eq_ok hk
    exact ih hrest

/-- A path that leads somewhere leads to the place that it names. -/
theorem place?_of_locate (h : d.locate name path = .ok l) : place? name path = some l := by
  unfold locate at h
  unfold place?
  cases hn : names? name path with
  | none => simp [hn] at h
  | some parts =>
    rw [hn] at h
    exact congrArg some (foldl_next_of_foldlM h)

theorem locate_of_locateFile (h : d.locateFile name path = .ok l) : d.locate name path = .ok l := by
  unfold locateFile at h
  split at h
  · exact h
  · dsimp only at h
    split at h
    · cases h
    · split at h
      · cases h
      · exact h

theorem place?_of_locateFile (h : d.locateFile name path = .ok l) : place? name path = some l :=
  place?_of_locate (locate_of_locateFile h)

/-! ## Paths of files in a directory -/

/-- The names that slashes part. -/
def partsOf (cs : List Char) : List String := (cs.splitOnP (· == '/')).map String.ofList

theorem partsOf_child (cs : List Char) {last : String} (hlast : '/' ∉ last.toList) :
    partsOf (cs ++ '/' :: last.toList) = partsOf cs ++ [last] := by
  have hsingle : last.toList.splitOnP (· == '/') = [last.toList] :=
    List.splitOnP_eq_singleton fun c hc => by
      rw [beq_eq_false_iff_ne]
      rintro rfl
      exact hlast hc
  unfold partsOf
  rw [List.splitOnP_append_cons _ _ (by decide), hsingle, List.map_append]
  simp

theorem partsOf_name {last : String} (hlast : '/' ∉ last.toList) : partsOf last.toList = [last] := by
  have h := partsOf_child [] hlast
  unfold partsOf at h ⊢
  rw [List.nil_append, List.splitOnP_cons_eq_if_modifyHead, if_pos (by decide)] at h
  simpa using h

/-- How a path leads into the directory: by its name, by a name below it, or as a relative path. -/
inductive Leads (name path : String) : Option (List String) → Prop
  | top (h : path = name) : Leads name path (some [])
  | below {rest : List Char} (h : path.toList = name.toList ++ '/' :: rest) :
    Leads name path (some (partsOf rest))
  | relative (h : ∀ rest, path.toList = name.toList ++ rest → rest ≠ [] ∧ rest.head? ≠ some '/') :
    Leads name path
      (if path.toList.head? == some '/' then none else some (partsOf path.toList))

theorem leads_names? (name path : String) : Leads name path (names? name path) := by
  have hstart : ∀ rest, Text.dropStart? name.toList path.toList = some rest ↔
      path.toList = name.toList ++ rest := by
    intro rest
    unfold Text.dropStart?
    constructor
    · intro h
      split at h
      · rename_i hp
        obtain ⟨behind, hb⟩ := List.isPrefixOf_iff_prefix.1 hp
        rw [← hb] at h ⊢
        simpa using h
      · cases h
    · intro h
      simp [h]
  unfold names?
  dsimp only
  split
  · rename_i h
    rw [hstart, List.append_nil] at h
    exact .top (String.toList_inj.1 h)
  · rename_i rest h
    exact .below ((hstart _).1 h)
  · rename_i hnil hslash
    refine .relative fun rest h => ?_
    rw [← hstart] at h
    constructor
    · rintro rfl
      exact hnil h
    · intro hhead
      cases rest with
      | nil => cases hhead
      | cons c rest =>
        obtain rfl : c = '/' := Option.some.inj hhead
        exact hslash rest h

theorem Leads.functional {names names' : Option (List String)} (h : Leads name path names)
    (h' : Leads name path names') : names = names' := by
  cases h with
  | top h =>
    cases h' with
    | top => rfl
    | below h' => simp [h] at h'
    | relative h' => exact absurd rfl (h' [] (by simp [h])).1
  | below h =>
    cases h' with
    | top h' => simp [h'] at h
    | below h' =>
      rw [h] at h'
      simp_all
    | relative h' => exact absurd rfl (h' _ h).2
  | relative h =>
    cases h' with
    | top h' => exact absurd rfl (h [] (by simp [h'])).1
    | below h' => exact absurd rfl (h _ h').2
    | relative => rfl

/-- A path that is not the name of the whole directory is not below it, if the path of its directory
is neither. -/
theorem beside_child {last : String} (hlast : '/' ∉ last.toList)
    (hname : path ++ "/" ++ last ≠ name)
    (h : ∀ rest, path.toList = name.toList ++ rest → rest ≠ [] ∧ rest.head? ≠ some '/') :
    ∀ rest, (path ++ "/" ++ last).toList = name.toList ++ rest →
      rest ≠ [] ∧ rest.head? ≠ some '/' := by
  intro rest hrest
  have hlist : (path ++ "/" ++ last).toList = path.toList ++ '/' :: last.toList := by simp
  -- The name of the directory reaches into the last name, or stays in front of it.
  rw [hlist, List.append_eq_append_iff] at hrest
  obtain ⟨behind, hbehind, hsplit⟩ | ⟨behind, hbehind, rfl⟩ := hrest
  · cases behind with
    | nil => exact absurd rfl (h [] (by simp [hbehind])).1
    | cons c behind =>
      rw [List.cons_append, List.cons.injEq] at hsplit
      obtain ⟨rfl, htail⟩ := hsplit
      constructor
      · rintro rfl
        rw [List.append_nil] at htail
        exact hname (String.toList_inj.1 (by rw [hlist, hbehind, htail]))
      · intro hslash
        obtain ⟨rest, rfl⟩ := List.head?_eq_some_iff.1 hslash
        exact hlast (htail ▸ List.mem_append_right _ List.mem_cons_self)
  · obtain ⟨hne, hhead⟩ := h behind hbehind
    cases behind with
    | nil => exact absurd rfl hne
    | cons c behind => exact ⟨by simp, hhead⟩

/-- The names in the path of a file are those of its directory and its own, unless the path is the
name of the whole directory. -/
theorem names?_child {last : String} (hpath : path ≠ "") (hlast : '/' ∉ last.toList)
    (hname : path ++ "/" ++ last ≠ name) :
    names? name (path ++ "/" ++ last) = (names? name path).map (· ++ [last]) := by
  have hlist : (path ++ "/" ++ last).toList = path.toList ++ '/' :: last.toList := by simp
  refine (leads_names? name _).functional ?_
  have hparent := leads_names? name path
  generalize names? name path = names at hparent
  cases hparent with
  | top h =>
    have hbelow : Leads name (path ++ "/" ++ last) (some (partsOf last.toList)) :=
      .below (by rw [hlist, h])
    rwa [partsOf_name hlast] at hbelow
  | @below rest h =>
    have hbelow : Leads name (path ++ "/" ++ last) (some (partsOf (rest ++ '/' :: last.toList))) :=
      .below (by rw [hlist, h, List.append_assoc]; rfl)
    rwa [partsOf_child rest hlast] at hbelow
  | relative h =>
    have hrelative : Leads name (path ++ "/" ++ last) _ := .relative (beside_child hlast hname h)
    have hhead : (path.toList ++ '/' :: last.toList).head? = path.toList.head? := by
      cases hp : path.toList with
      | nil => exact absurd (String.toList_inj.1 (hp.trans String.toList_empty.symm)) hpath
      | cons c cs => rfl
    rw [hlist, partsOf_child _ hlast, hhead] at hrelative
    split at hrelative
    · rename_i habsolute
      rwa [if_pos habsolute]
    · rename_i habsolute
      rwa [if_neg habsolute]

/-- A name that leads to something of that name. -/
structure ProperName (last : String) : Prop where
  slash : '/' ∉ last.toList
  names : last ∉ ["", ".", ".."]

instance (last : String) : Decidable (ProperName last) :=
  decidable_of_iff ('/' ∉ last.toList ∧ last ∉ ["", ".", ".."])
    ⟨fun h => ⟨h.1, h.2⟩, fun h => ⟨h.slash, h.names⟩⟩

theorem ProperName.next {last : String} (h : ProperName last) (l : Location) :
    next l last = l ++ [last] := by
  have hnames := h.names
  simp only [List.mem_cons, List.not_mem_nil, or_false, not_or] at hnames
  simp [Directory.next, hnames]

/-- The place of a file has its name, unless its path is the name of the whole directory. -/
theorem mem_places_child {last : String} (hpath : path ≠ "") (hlast : ProperName last)
    (hl : l ∈ places name (path ++ "/" ++ last)) :
    (path ++ "/" ++ last = name ∧ l = []) ∨ l.getLast? = some last := by
  have hplace : place? name (path ++ "/" ++ last) = some l := hl
  unfold place? at hplace
  by_cases hname : path ++ "/" ++ last = name
  · have htop : names? name (path ++ "/" ++ last) = some [] :=
      (leads_names? name _).functional (.top hname)
    rw [htop] at hplace
    exact .inl ⟨hname, (Option.some.inj hplace).symm⟩
  · rw [names?_child hpath hlast.slash hname, Option.map_map, Option.map_eq_some_iff] at hplace
    obtain ⟨names, -, rfl⟩ := hplace
    refine .inr ?_
    simp [hlast.next]

/-- Files of different names have different places. -/
theorem not_mem_places_child {path' last last' : String} (hpath : path ≠ "") (hpath' : path' ≠ "")
    (hlast : ProperName last) (hlast' : ProperName last') (hne : last ≠ last') :
    ∀ l ∈ places name (path ++ "/" ++ last), l ∉ places name (path' ++ "/" ++ last') := by
  intro l hl hl'
  obtain ⟨hname, rfl⟩ | hget := mem_places_child hpath hlast hl
  · obtain ⟨hname', -⟩ | hget' := mem_places_child hpath' hlast' hl'
    · have hparts := congrArg (fun path : String => partsOf path.toList) (hname.trans hname'.symm)
      simp only [String.toList_append, List.append_assoc, List.cons_append, List.nil_append,
        show "/".toList = ['/'] from rfl, partsOf_child _ hlast.slash,
        partsOf_child _ hlast'.slash] at hparts
      exact hne (List.append_inj_right' hparts rfl |> List.cons.inj |>.1)
    · cases hget'
  · obtain ⟨-, rfl⟩ | hget' := mem_places_child hpath' hlast' hl'
    · cases hget
    · exact hne (Option.some.inj (hget.symm.trans hget'))

/-! ## Files that can be put where their paths lead -/

theorem locateFile_child {last : String} (hlast : ProperName last) :
    d.locateFile name (path ++ "/" ++ last) = d.locate name (path ++ "/" ++ last) := by
  obtain ⟨c, before, hrev, hc⟩ : ∃ c before,
      (path ++ "/" ++ last).toList.reverse = c :: before ∧ c ≠ '/' := by
    cases hl : last.toList.reverse with
    | nil =>
      have hempty : last = "" := String.toList_inj.1 (by simpa using hl)
      exact absurd hempty fun h => hlast.names (h ▸ List.mem_cons_self)
    | cons c cs =>
      refine ⟨c, cs ++ (path ++ "/").toList.reverse, by simp [hl], ?_⟩
      rintro rfl
      exact hlast.slash (List.mem_reverse.1 (hl ▸ List.mem_cons_self))
  have htrimmed : String.ofList (c :: before).reverse = path ++ "/" ++ last := by
    rw [← hrev, List.reverse_reverse, String.ofList_toList]
  unfold locateFile
  rw [hrev, List.dropWhile_cons_of_neg (by simpa using hc)]
  dsimp only
  rw [htrimmed]
  cases d.locate name (path ++ "/" ++ last) <;> simp

/-- The directories on the way to something are there. -/
theorem makeFrom_of_foldlM {start : Location} (h : parts.foldlM d.enter start = .ok l)
    (hl : d.kindAt l = .directory) : d.makeFrom start parts = .ok d := by
  induction parts generalizing start with
  | nil => rfl
  | cons part parts ih =>
    rw [List.foldlM_cons] at h
    obtain ⟨k, hk, hrest⟩ := exists_of_bind_eq_ok h
    have hdirectory : d.kindAt k = .directory := by
      cases parts with
      | nil =>
        obtain rfl : k = l := Except.ok.inj hrest
        exact hl
      | cons part' parts =>
        rw [List.foldlM_cons] at hrest
        obtain ⟨k', hk', -⟩ := exists_of_bind_eq_ok hrest
        exact (enter_eq_ok hk').1
    unfold makeFrom
    rw [hk]
    dsimp only [bind, Except.bind]
    rw [hdirectory]
    exact ih hrest

theorem makeDirectories_of_locate_child {last : String} (hpath : path ≠ "")
    (hlast : ProperName last) (h : d.locate name (path ++ "/" ++ last) = .ok l)
    (hl : d.kindAt l ≠ .directory) : d.makeDirectories name path = .ok d := by
  have hname : path ++ "/" ++ last ≠ name := by
    intro he
    have htop : names? name (path ++ "/" ++ last) = some [] :=
      (leads_names? name _).functional (.top he)
    unfold locate at h
    rw [htop] at h
    obtain rfl : ([] : Location) = l := Except.ok.inj h
    exact hl rfl
  unfold locate at h
  unfold makeDirectories
  rw [names?_child hpath hlast.slash hname] at h
  cases hn : names? name path with
  | none =>
    rw [hn] at h
    cases h
  | some parts =>
    rw [hn] at h
    dsimp only [Option.map_some] at h ⊢
    rw [List.foldlM_append] at h
    obtain ⟨k, hk, hrest⟩ := exists_of_bind_eq_ok h
    rw [List.foldlM_cons] at hrest
    obtain ⟨k', hk', -⟩ := exists_of_bind_eq_ok hrest
    exact makeFrom_of_foldlM hk (enter_eq_ok hk').1

/-! ## Files that stay as they are -/

/-- The bytes of the file at a place, if there is one. -/
def fileAt? (d : Directory) (l : Location) : Option (List UInt8) :=
  match d.kindAt l with
  | .file bytes => some bytes
  | _ => none

theorem fileAt?_congr (h : d.kindAt l = e.kindAt l) : d.fileAt? l = e.fileAt? l := by
  unfold fileAt?
  rw [h]

namespace Extends

theorem refl (d : Directory) : Extends d d := ⟨id, id⟩

theorem trans (h : Extends d d') (h' : Extends d' e) : Extends d e :=
  ⟨fun hl => h'.directory (h.directory hl), fun hl => h'.file (h.file hl)⟩

end Extends

/-- What is there in `d` is there in `e`, and no file differs but those at the places `written`, and
those at the places `fresh` that were not there. -/
structure Footprint (written fresh : Set Location) (d e : Directory) : Prop where
  grows : Extends d e
  file : ∀ l, l ∉ written → (l ∈ fresh → d.kindAt l ≠ .missing) → e.fileAt? l = d.fileAt? l

namespace Footprint

variable {written fresh written' fresh' : Set Location}

theorem refl (written fresh : Set Location) (d : Directory) : Footprint written fresh d d :=
  ⟨.refl d, fun _ _ _ => rfl⟩

/-- What was there after the first change was there before or has been made by it. -/
theorem trans (h : Footprint written fresh d d') (h' : Footprint written fresh d' e) :
    Footprint written fresh d e where
  grows := h.grows.trans h'.grows
  file l hw hf := (h'.file l hw fun hmem => h.grows.missing (hf hmem)).trans (h.file l hw hf)

theorem mono (h : Footprint written fresh d e) (hw : written ⊆ written') (hf : fresh ⊆ fresh') :
    Footprint written' fresh' d e where
  grows := h.grows
  file l hl hmem := h.file l (fun hmem => hl (hw hmem)) fun hfresh => hmem (hf hfresh)

end Footprint

/-- A change of a file is a footprint at the place that its path names. -/
theorem footprint_change (h : d.change name path f = .ok e) :
    Footprint (places name path) ∅ d e where
  grows := extends_change h
  file l hl _ := by
    obtain ⟨k, hk, -⟩ := exists_locateFile_of_change h
    refine fileAt?_congr ?_
    rw [kindAt_change hk h, if_neg]
    rintro rfl
    exact hl (place?_of_locateFile hk)

/-- A change where there is nothing makes a new file. -/
theorem footprint_new (hnew : d.isThere name path = false) (h : d.change name path f = .ok e) :
    Footprint ∅ (places name path) d e where
  grows := extends_change h
  file l _ hl := by
    obtain ⟨k, hk, -⟩ := exists_locateFile_of_change h
    have hmissing : d.kindAt k = .missing := by
      unfold isThere at hnew
      rw [locate_of_locateFile hk] at hnew
      simpa using hnew
    refine fileAt?_congr ?_
    rw [kindAt_change hk h, if_neg]
    rintro rfl
    exact hl (place?_of_locateFile hk) hmissing

/-! ## Making directories -/

theorem footprint_set_none (hl : d.kindAt l = .missing) : Footprint ∅ ∅ d (d.set l none) := by
  have hne : l ≠ [] := by
    rintro rfl
    cases hl
  have hkind : ∀ l', d.kindAt l' ≠ .missing → (d.set l none).kindAt l' = d.kindAt l' := by
    intro l' hl'
    rw [kindAt_set d hne, if_neg]
    rintro rfl
    exact hl' hl
  refine ⟨⟨fun {l'} hd => ?_, fun {l'} ⟨bytes, hb⟩ => ⟨bytes, ?_⟩⟩, fun l' _ _ => ?_⟩
  · rw [hkind l' (by simp [hd]), hd]
  · rw [hkind l' (by simp [hb]), hb]
  · unfold fileAt?
    rw [kindAt_set d hne]
    by_cases he : l' = l
    · rw [if_pos he, he, hl]
      rfl
    · rw [if_neg he]

theorem footprint_makeFrom {start : Location} (h : d.makeFrom start parts = .ok e) :
    Footprint ∅ ∅ d e := by
  induction parts generalizing d start with
  | nil =>
    obtain rfl := Except.ok.inj h
    exact .refl ∅ ∅ d
  | cons part parts ih =>
    unfold makeFrom at h
    obtain ⟨l, -, hrest⟩ := exists_of_bind_eq_ok h
    cases hk : d.kindAt l with
    | missing =>
      rw [hk] at hrest
      exact (footprint_set_none hk).trans (ih hrest)
    | directory =>
      rw [hk] at hrest
      exact ih hrest
    | file bytes =>
      rw [hk] at hrest
      cases hrest

/-- Making directories leaves all files as they are. -/
theorem footprint_makeDirectories (h : d.makeDirectories name path = .ok e) :
    Footprint ∅ ∅ d e := by
  unfold makeDirectories at h
  cases hn : names? name path with
  | none => simp [hn] at h
  | some parts =>
    rw [hn] at h
    exact footprint_makeFrom h

end ReleaseListing.Directory
