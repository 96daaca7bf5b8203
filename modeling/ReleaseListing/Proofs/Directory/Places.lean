import ReleaseListing.Directory
import ReleaseListing.Proofs.Reading
import Mathlib.Order.BooleanAlgebra.Set

/-!
# What a change to a directory does

A change puts one file at one place (`change_eq_ok_iff`) and leaves every other place as it is
(`kindAt_change`). `SameBut places d e`: the directories `d` and `e` have the same files and
directories, and only the files at `places` may have other bytes. Paths lead to the same places in
both (`SameBut.locateFile`), so a change comes about in both or in neither, and a file that is
written in both is the same file afterwards (`SameBut.write`). `Extends d e`: what is a file or a
directory in `d` is one in `e`, so a path that leads somewhere leads there still.
-/

namespace ReleaseListing.Directory

variable {d d' e e' : Directory} {l : Location} {name path : String} {error : HostError}
  {f g : List UInt8 → List UInt8} {bytes : List UInt8}

/-! ## Places -/

/-- What the bytes of a file are before a change; none for a directory, which has no bytes. -/
def Kind.bytes? : Kind → Option (List UInt8)
  | .missing => some []
  | .directory => none
  | .file bytes => some bytes

/-- What is at the place of an entry. -/
def Kind.ofEntry : Option (List UInt8) → Kind
  | none => .directory
  | some bytes => .file bytes

@[simp] theorem kindAt_nil (d : Directory) : d.kindAt [] = .directory := rfl

theorem lookup_map_replace (entries : List (Location × Option (List UInt8))) (l l' : Location)
    (entry : Option (List UInt8)) :
    (entries.map fun x => if x.1 == l then (l, entry) else x).lookup l' =
      if l' = l ∧ (entries.lookup l).isSome then some entry else entries.lookup l' := by
  induction entries with
  | nil => simp
  | cons x entries ih =>
    obtain ⟨k, v⟩ := x
    rw [List.map_cons]
    by_cases hk : k = l
    · subst hk
      by_cases hl : l' = k
      · subst hl
        simp
      · have hb : (l' == k) = false := by simpa using hl
        rw [if_pos (beq_self_eq_true k), List.lookup_cons, hb, ih]
        simp [List.lookup_cons, hl, hb]
    · have hkl : (k == l) = false := by simpa using hk
      have hlk : (l == k) = false := by simpa using Ne.symm hk
      rw [if_neg (by simp [hkl]), List.lookup_cons, List.lookup_cons, List.lookup_cons, hlk, ih]
      by_cases hl : l' = k
      · subst hl
        simp [hk]
      · have hb : (l' == k) = false := by simpa using hl
        simp only [hb]

/-- Putting something at a place changes that place and no other. -/
theorem kindAt_set (d : Directory) (hl : l ≠ []) (entry : Option (List UInt8)) (l' : Location) :
    (d.set l entry).kindAt l' = if l' = l then .ofEntry entry else d.kindAt l' := by
  have hlookup : (d.set l entry).entries.lookup l' =
      if l' = l then some entry else d.entries.lookup l' := by
    unfold set
    by_cases hs : (d.entries.lookup l).isSome
    · rw [if_pos hs]
      show List.lookup l' (List.map _ d.entries) = _
      rw [lookup_map_replace]
      simp [hs]
    · rw [if_neg hs]
      rw [Option.not_isSome_iff_eq_none] at hs
      show List.lookup l' (d.entries ++ [(l, entry)]) = _
      rw [List.lookup_append]
      by_cases he : l' = l
      · subst he
        simp [hs]
      · have hb : (l' == l) = false := by simpa using he
        simp [List.lookup_cons, hb, he]
  unfold kindAt
  rw [hlookup]
  by_cases he : l' = l
  · subst he
    cases entry <;> simp [hl, Kind.ofEntry]
  · simp [he]

/-- A change finds the place of a file, and puts the new bytes there. -/
theorem change_eq_ok_iff :
    d.change name path f = .ok d' ↔
      ∃ l bytes, d.locateFile name path = .ok l ∧ (d.kindAt l).bytes? = some bytes ∧
        d' = d.set l (some (f bytes)) := by
  unfold change
  cases hl : d.locateFile name path with
  | error e => simp [bind, Except.bind]
  | ok l =>
    cases hk : d.kindAt l with
    | missing => simp [bind, Except.bind, pure, Except.pure, hk, Kind.bytes?, eq_comm]
    | directory =>
      simp [bind, Except.bind, throw, throwThe, MonadExceptOf.throw, hk, Kind.bytes?]
    | file bytes => simp [bind, Except.bind, pure, Except.pure, hk, Kind.bytes?, eq_comm]

/-- A change does not come about where the path leads nowhere, or to a directory. -/
theorem change_eq_error_iff :
    d.change name path f = .error error ↔
      d.locateFile name path = .error error ∨
        error = .isDirectory ∧
          ∃ l, d.locateFile name path = .ok l ∧ d.kindAt l = .directory := by
  unfold change
  cases hl : d.locateFile name path with
  | error e => simp [bind, Except.bind]
  | ok l =>
    cases hk : d.kindAt l with
    | missing => simp [bind, Except.bind, pure, Except.pure, hk]
    | directory =>
      simp [bind, Except.bind, throw, throwThe, MonadExceptOf.throw, hk, eq_comm]
    | file bytes => simp [bind, Except.bind, pure, Except.pure, hk]

/-- What is at each place behind a change. -/
theorem kindAt_change (hl : d.locateFile name path = .ok l) (h : d.change name path f = .ok d')
    (l' : Location) :
    d'.kindAt l' =
      if l' = l then .file (f ((d.kindAt l).bytes?.getD [])) else d.kindAt l' := by
  obtain ⟨k, bytes, hk, hb, rfl⟩ := change_eq_ok_iff.1 h
  obtain rfl : l = k := by simpa [hl] using hk
  have hne : l ≠ [] := by
    rintro rfl
    simp [Kind.bytes?] at hb
  rw [kindAt_set d hne, hb, Option.getD_some]
  rfl

/-- What there is at the place of a file that has been changed, it is a file now. -/
theorem exists_locateFile_of_change (h : d.change name path f = .ok d') :
    ∃ l, d.locateFile name path = .ok l ∧ d'.kindAt l = .file (f ((d.kindAt l).bytes?.getD [])) := by
  obtain ⟨l, -, hl, -, -⟩ := change_eq_ok_iff.1 h
  refine ⟨l, hl, ?_⟩
  rw [kindAt_change hl h l, if_pos rfl]

/-! ## Directories that are alike -/

/-- The directories have the same files and directories; only the files at some places may have
other bytes. -/
def SameBut (places : Set Location) (d e : Directory) : Prop :=
  ∀ l, d.kindAt l = e.kindAt l ∨
    l ∈ places ∧ (∃ bytes, d.kindAt l = .file bytes) ∧ ∃ bytes, e.kindAt l = .file bytes

namespace SameBut

variable {places others : Set Location}

theorem refl (places : Set Location) (d : Directory) : SameBut places d d := fun _ => .inl rfl

theorem symm (h : SameBut places d e) : SameBut places e d := by
  intro l
  rcases h l with hk | ⟨hl, hd, he⟩
  · exact .inl hk.symm
  · exact .inr ⟨hl, he, hd⟩

theorem trans (h : SameBut places d d') (h' : SameBut places d' e) : SameBut places d e := by
  intro l
  rcases h l with hk | ⟨hl, hd, hd'⟩
  · rw [hk]
    exact h' l
  · rcases h' l with hk' | ⟨-, -, he⟩
    · exact .inr ⟨hl, hd, hk' ▸ hd'⟩
    · exact .inr ⟨hl, hd, he⟩

theorem mono (h : SameBut places d e) (hsub : places ⊆ others) : SameBut others d e := by
  intro l
  rcases h l with hk | ⟨hl, hfiles⟩
  · exact .inl hk
  · exact .inr ⟨hsub hl, hfiles⟩

/-- Away from the places nothing differs. -/
theorem kindAt (h : SameBut places d e) (hl : l ∉ places) : d.kindAt l = e.kindAt l := by
  rcases h l with hk | ⟨hmem, -⟩
  · exact hk
  · exact (hl hmem).elim

theorem directory_iff (h : SameBut places d e) (l : Location) :
    d.kindAt l = .directory ↔ e.kindAt l = .directory := by
  rcases h l with hk | ⟨-, ⟨b, hb⟩, c, hc⟩
  · rw [hk]
  · simp [hb, hc]

theorem missing_iff (h : SameBut places d e) (l : Location) :
    d.kindAt l = .missing ↔ e.kindAt l = .missing := by
  rcases h l with hk | ⟨-, ⟨b, hb⟩, c, hc⟩
  · rw [hk]
  · simp [hb, hc]

/-- A file stays a file. -/
theorem exists_file (h : SameBut places d e) (hd : ∃ bytes, d.kindAt l = .file bytes) :
    ∃ bytes, e.kindAt l = .file bytes := by
  rcases h l with hk | ⟨-, -, he⟩
  · rwa [← hk]
  · exact he

theorem enter (h : SameBut places d e) (l : Location) (name : String) :
    d.enter l name = e.enter l name := by
  unfold Directory.enter
  rcases h l with hk | ⟨-, ⟨b, hb⟩, c, hc⟩
  · rw [hk]
  · rw [hb, hc]

/-- A path leads to the same place in both. -/
theorem locate (h : SameBut places d e) (name path : String) :
    d.locate name path = e.locate name path := by
  have henter : d.enter = e.enter := by
    funext l part
    exact h.enter l part
  unfold Directory.locate
  rw [henter]

theorem locateFile (h : SameBut places d e) (name path : String) :
    d.locateFile name path = e.locateFile name path := by
  have hmissing : ∀ l, (d.kindAt l == .missing) = (e.kindAt l == .missing) := by
    intro l
    rw [Bool.eq_iff_iff, beq_iff_eq, beq_iff_eq]
    exact h.missing_iff l
  unfold Directory.locateFile
  simp only [h.locate, hmissing]

theorem isThere (h : SameBut places d e) (name path : String) :
    d.isThere name path = e.isThere name path := by
  unfold Directory.isThere
  rw [h.locate]
  cases e.locate name path with
  | error x => rfl
  | ok l =>
    show (d.kindAt l != .missing) = (e.kindAt l != .missing)
    rw [Bool.eq_iff_iff, bne_iff_ne, bne_iff_ne, Ne, Ne, h.missing_iff]

/-- What keeps a file from being changed in the one keeps it from being changed in the other. -/
theorem change_error (h : SameBut places d e) (hd : d.change name path f = .error error) :
    e.change name path g = .error error := by
  rw [change_eq_error_iff] at hd ⊢
  rw [← h.locateFile]
  rcases hd with hd | ⟨rfl, l, hl, hk⟩
  · exact .inl hd
  · exact .inr ⟨rfl, l, hl, (h.directory_iff l).1 hk⟩

theorem change_ok (h : SameBut places d e) (hd : d.change name path f = .ok d')
    (g : List UInt8 → List UInt8) : ∃ e', e.change name path g = .ok e' := by
  cases he : e.change name path g with
  | ok e' => exact ⟨e', rfl⟩
  | error x =>
    rw [h.symm.change_error he] at hd
    cases hd

/-- A file that is changed in both stays the same if it was and is changed alike. -/
theorem change (h : SameBut places d e) (hl : d.locateFile name path = .ok l)
    (hd : d.change name path f = .ok d') (he : e.change name path g = .ok e')
    (hfile : f ((d.kindAt l).bytes?.getD []) = g ((e.kindAt l).bytes?.getD [])) :
    SameBut (places \ {l}) d' e' := by
  intro l'
  rw [kindAt_change hl hd, kindAt_change (h.locateFile .. ▸ hl) he]
  by_cases hl' : l' = l
  · exact .inl (by rw [if_pos hl', if_pos hl', hfile])
  · rw [if_neg hl', if_neg hl']
    rcases h l' with hk | ⟨hmem, hfiles⟩
    · exact .inl hk
    · exact .inr ⟨⟨hmem, hl'⟩, hfiles⟩

/-- A file that is written in both is the same afterwards. -/
theorem write (h : SameBut places d e) (hl : d.locateFile name path = .ok l)
    (hd : d.change name path (fun _ => bytes) = .ok d')
    (he : e.change name path (fun _ => bytes) = .ok e') : SameBut (places \ {l}) d' e' :=
  h.change hl hd he rfl

/-- What is done alike in both does not add to what differs. -/
theorem change_alike (h : SameBut places d e) (hd : d.change name path f = .ok d')
    (he : e.change name path f = .ok e') : SameBut places d' e' := by
  obtain ⟨l, hl, -⟩ := exists_locateFile_of_change hd
  intro l'
  rw [kindAt_change hl hd, kindAt_change (h.locateFile .. ▸ hl) he]
  by_cases hl' : l' = l
  · rw [if_pos hl', if_pos hl', hl']
    rcases h l with hk | ⟨hmem, -⟩
    · exact .inl (by rw [hk])
    · exact .inr ⟨hmem, ⟨_, rfl⟩, _, rfl⟩
  · rw [if_neg hl', if_neg hl']
    exact h l'

/-- A directory that is made in both is one in both. -/
theorem set_none (h : SameBut places d e) (hl : l ≠ []) :
    SameBut places (d.set l none) (e.set l none) := by
  intro l'
  rw [kindAt_set d hl, kindAt_set e hl]
  by_cases he : l' = l
  · exact .inl (by rw [if_pos he, if_pos he])
  · rw [if_neg he, if_neg he]
    exact h l'

end SameBut

/-- What comes of the same change to two directories: the same error, or directories that are
alike. -/
inductive SameResult (places : Set Location) :
    Except HostError Directory → Except HostError Directory → Prop
  | ok {d e : Directory} (h : SameBut places d e) : SameResult places (.ok d) (.ok e)
  | error (error : HostError) : SameResult places (.error error) (.error error)

theorem SameResult.ok_or_error {places : Set Location} {x y : Except HostError Directory}
    (h : SameResult places x y) :
    (∃ d e, x = .ok d ∧ y = .ok e ∧ SameBut places d e) ∨
      ∃ error, x = .error error ∧ y = .error error := by
  cases h with
  | ok h => exact .inl ⟨_, _, rfl, rfl, h⟩
  | error error => exact .inr ⟨error, rfl, rfl⟩

namespace SameBut

variable {places : Set Location}

theorem change_result (h : SameBut places d e) (name path : String)
    (f : List UInt8 → List UInt8) :
    SameResult places (d.change name path f) (e.change name path f) := by
  cases hd : d.change name path f with
  | error x =>
    rw [h.change_error hd]
    exact .error x
  | ok d' =>
    obtain ⟨e', he⟩ := h.change_ok hd f
    rw [he]
    exact .ok (h.change_alike hd he)

theorem makeFrom (h : SameBut places d e) (start : Location) (parts : List String) :
    SameResult places (d.makeFrom start parts) (e.makeFrom start parts) := by
  induction parts generalizing d e start with
  | nil => exact .ok h
  | cons part parts ih =>
    unfold Directory.makeFrom
    rw [← h.enter]
    cases d.enter start part with
    | error x => exact .error x
    | ok l =>
      dsimp only [bind, Except.bind]
      rcases h l with hk | ⟨-, ⟨b, hb⟩, c, hc⟩
      · rw [← hk]
        cases hd : d.kindAt l with
        | missing =>
          have hne : l ≠ [] := by
            rintro rfl
            cases hd
          exact ih (h.set_none hne) l
        | directory => exact ih h l
        | file bytes => exact .error _
      · rw [hb, hc]
        exact .error _

theorem makeDirectories (h : SameBut places d e) (name path : String) :
    SameResult places (d.makeDirectories name path) (e.makeDirectories name path) := by
  unfold Directory.makeDirectories
  cases names? name path with
  | none => exact .error _
  | some parts => exact h.makeFrom [] parts

end SameBut

/-- Changing a file that is there changes its bytes and nothing else. -/
theorem sameBut_change (hl : d.locateFile name path = .ok l)
    (hfile : ∃ bytes, d.kindAt l = .file bytes) (h : d.change name path f = .ok d') :
    SameBut {l} d d' := by
  intro l'
  rw [kindAt_change hl h]
  by_cases hl' : l' = l
  · subst hl'
    exact .inr ⟨rfl, hfile, _, if_pos rfl⟩
  · exact .inl (by rw [if_neg hl'])

/-! ## Directories that grow -/

/-- Every file of `d` is a file of `e`, and every directory a directory. -/
structure Extends (d e : Directory) : Prop where
  directory : ∀ {l}, d.kindAt l = .directory → e.kindAt l = .directory
  file : ∀ {l}, (∃ bytes, d.kindAt l = .file bytes) → ∃ bytes, e.kindAt l = .file bytes

/-- A change makes a file of what is missing, or changes a file. -/
theorem extends_change (h : d.change name path f = .ok d') : Extends d d' := by
  obtain ⟨l, bytes, hl, hb, -⟩ := change_eq_ok_iff.1 h
  constructor
  · intro l' hk
    have hne : l' ≠ l := by
      rintro rfl
      simp [hk, Kind.bytes?] at hb
    rw [kindAt_change hl h, if_neg hne, hk]
  · rintro l' ⟨b, hk⟩
    rw [kindAt_change hl h]
    by_cases he : l' = l
    · exact ⟨_, if_pos he⟩
    · exact ⟨b, by rw [if_neg he, hk]⟩

namespace Extends

theorem missing (h : Extends d e) (hl : d.kindAt l ≠ .missing) : e.kindAt l ≠ .missing := by
  cases hk : d.kindAt l with
  | missing => exact (hl hk).elim
  | directory => simp [h.directory hk]
  | file b =>
    obtain ⟨c, hc⟩ := h.file ⟨b, hk⟩
    simp [hc]

theorem enter (h : Extends d e) {start : Location} {part : String}
    (hl : d.enter start part = .ok l) : e.enter start part = .ok l := by
  unfold Directory.enter at hl ⊢
  cases hk : d.kindAt start with
  | missing => simp [hk] at hl
  | file b => simp [hk] at hl
  | directory =>
    rw [h.directory hk]
    rwa [hk] at hl

theorem foldlM_enter (h : Extends d e) {start : Location} {parts : List String}
    (hl : parts.foldlM d.enter start = .ok l) : parts.foldlM e.enter start = .ok l := by
  induction parts generalizing start with
  | nil => exact hl
  | cons part parts ih =>
    rw [List.foldlM_cons] at hl ⊢
    cases hp : d.enter start part with
    | error x => simp [hp, bind, Except.bind] at hl
    | ok k =>
      rw [h.enter hp]
      rw [hp] at hl
      exact ih hl

theorem locate (h : Extends d e) (hl : d.locate name path = .ok l) :
    e.locate name path = .ok l := by
  unfold Directory.locate at hl ⊢
  cases hn : names? name path with
  | none => simp [hn] at hl
  | some parts =>
    rw [hn] at hl
    exact h.foldlM_enter hl

/-- Where a file can be put, it can be put still. -/
theorem locateFile (h : Extends d e) (hl : d.locateFile name path = .ok l) :
    e.locateFile name path = .ok l := by
  unfold Directory.locateFile at hl ⊢
  cases hp : path.toList.reverse.dropWhile (· == '/') with
  | nil =>
    rw [hp] at hl
    exact h.locate hl
  | cons last before =>
    rw [hp] at hl
    dsimp only at hl ⊢
    cases ht : d.locate name (String.ofList (last :: before).reverse) with
    | error x =>
      rw [ht] at hl
      cases hl
    | ok k =>
      rw [h.locate ht]
      rw [ht] at hl
      dsimp only at hl ⊢
      split at hl
      · cases hl
      · rename_i hcond
        rw [if_neg ?_]
        · exact h.locate hl
        · intro hboth
          rw [Bool.and_eq_true, beq_iff_eq] at hboth hcond
          exact h.missing (fun hk => hcond ⟨hboth.1, hk⟩) hboth.2

end Extends

end ReleaseListing.Directory
