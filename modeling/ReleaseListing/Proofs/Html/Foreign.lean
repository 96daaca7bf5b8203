import ReleaseListing.Proofs.Html.Elements

/-!
# Drawings and formulas

An element of another vocabulary is opened in the spelling of the vocabulary, as the outermost one of
a drawing or a formula (`Inside.holds_root`) or inside of others (`Inside.holds_alike`). Its end tag
closes it alone.
-/

namespace ReleaseListing.Html

open Construct Grown

variable {s t : Construction} {frames : List Frame} {f g : Frame} {ground : Ground} {m : Memory}
  {inner : Forest} {space : Space} {tag read : Tag} {name : String} {attributes : List Attribute}

/-! ## Tags in the spelling of a vocabulary -/

/-- A tag as the vocabulary has it. -/
def adoptedTag (space : Space) (read : Tag) : Tag where
  name := space.spelled read.name
  attributes := read.attributes.map (·.adopted space)

/-- A start tag that is read is, as the element has it, the one that has been written. -/
theorem adoptedTag_rereadTag (h : tidyTag space name attributes) :
    adoptedTag space (rereadTag name attributes) = startTag name attributes := by
  have hspelled : space.spelled (lowerName name.toList) = name :=
    (tidyName_iff.1 (tidyTag_iff.1 h).1).1
  unfold adoptedTag startTag
  rw [map_adopted h]
  exact congrArg (Tag.mk · _ false) hspelled

theorem toLower_ne_nul {c : Char} (h : c ≠ '\x00') : c.toLower ≠ '\x00' := by
  unfold Char.toLower
  split
  · rename_i hupper
    have hlow : 65 ≤ c.val.toNat := UInt32.le_iff_toNat_le.1 hupper.1
    have hhigh : c.val.toNat ≤ 90 := UInt32.le_iff_toNat_le.1 hupper.2
    intro heq
    have hval : (c.val.toNat + 32) % 4294967296 = 0 := congrArg (·.val.toNat) heq
    omega
  · exact h

/-- The name of an end tag is that of its element, in lower case. -/
theorem toList_lowerName (h : tidyName space name) :
    Text.asciiLower name.toList = (lowerName name.toList).toList := by
  obtain ⟨-, c, cs, hname, hc, hcs⟩ := tidyName_iff.1 h
  have hnul : '\x00' ∉ name.toList.map Char.toLower := by
    intro hmem
    obtain ⟨d, hd, heq⟩ := List.mem_map.1 hmem
    refine toLower_ne_nul ?_ heq
    rw [hname] at hd
    rcases List.mem_cons.1 hd with rfl | hd
    · rintro rfl
      exact absurd hc (by decide)
    · exact (hcs d hd).1
  rw [lowerName, withoutNul_eq hnul, String.toList_ofList]
  rfl

theorem isRoot_iff : isRoot space name = true ↔
    space = .svg ∧ name = "svg" ∨ space = .mathml ∧ name = "math" := by
  simp [isRoot]

/-- The name of the outermost element of a drawing or a formula is in lower case, and is no name of
HTML that is read in a way of its own. -/
theorem spelled_of_isRoot (h : isRoot space name) :
    space ≠ .html ∧ space.spelled name = name ∧ Text.asciiLower name.toList = name.toList ∧
      name ∉ ["br", "p"] ∧ name ∉ tablePartNames ∧ name ∉ ["mglyph", "malignmark"] := by
  rcases isRoot_iff.1 h with ⟨rfl, rfl⟩ | ⟨rfl, rfl⟩
  · exact ⟨by decide, by decide +kernel, by decide, by decide, by decide, by decide⟩
  · exact ⟨by decide, by decide, by decide, by decide, by decide, by decide⟩

/-! ## Elements -/

theorem Placed.run_openForeign (h : Placed frames inner s) (space : Space)
    (hself : tag.selfClosing = false) : (openForeign space tag).run s =
      ((), opened frames space inner (adjustedTag space tag) s) := by
  unfold openForeign
  refine run_bind_eq (h.run_putElement space (adjustedTag space tag)) ?_
  rw [hself]
  rfl

theorem adjustedTag_eq (hspace : space ≠ .html) (hself : read.selfClosing = false) :
    adjustedTag space { read with name := space.spelled read.name } = adoptedTag space read := by
  have hadopted : ∀ a : Attribute, a.adopted space = adjustedAttribute space a := fun a =>
    if_neg (by simpa using hspace)
  simp only [adjustedTag, adoptedTag, hadopted, hself]

/-- The end tag of the innermost element, which is not of HTML, closes it alone. -/
theorem Placed.look_foreignEnd (h : Placed (f :: frames) inner s) (hspace : f.space ≠ .html)
    (hlower : Text.asciiLower f.name.toList = name.toList) (hname : name ∉ ["br", "p"]) :
    look (.endTag { name }) s =
      (.done, { s with stack := frames.map Frame.element ++ [rootElement] }) := by
  have hforeign : isForeign s.stack.head? (.endTag { name }) = true := by
    rw [h.head?_stack]
    simpa [isForeign, current, Frame.element] using hspace
  have hstays : inForeign (.endTag { name }) = (do
      foreignEnd { name } true (← get).stack) := if_neg (by simpa using hname)
  have hself : (Text.asciiLower f.element.name.toList == name.toList) = true := beq_iff_eq.2 hlower
  obtain ⟨d, ds, hds⟩ : ∃ d ds, frames.map Frame.element ++ [rootElement] = d :: ds :=
    List.exists_cons_of_ne_nil (by simp)
  rw [look_foreign_eq hforeign, hstays]
  refine run_bind_eq (a := s) (t := s) rfl ?_
  rw [h.stack, List.map_cons, List.cons_append, hds]
  unfold foreignEnd
  rw [if_neg (by simp), if_pos hself]
  rfl

namespace Inside

/-- An element of another vocabulary is held that is opened where it stands. -/
theorem holds_foreign (h : Inside ground frames m inner s) (hground : ground ≠ .select)
    (hsuits : Ground.flow.suits s.mode) (hspace : space ≠ .html)
    (hlower : Text.asciiLower tag.name.toList = read.name.toList) (hname : read.name ∉ ["br", "p"])
    (hstart : look (.startTag read) s =
      (.done, Grown.opened frames space inner tag s)) :
    HoldsOn (ground.inside (around space tag.name)) ground frames m inner space tag read s := by
  have hnot : ∀ names : List String, ¬ (newFrame space inner tag s).element.isAny names := by
    intro names hany
    exact hspace (beq_iff_eq.1 (Bool.and_eq_true_iff.1 hany).1)
  have hinside : (ground.inside (around space tag.name)) ≠ .select ∧
      (ground.inside (around space tag.name)).suits s.mode := by
    have hhtml : ¬ ((around space tag.name).space == .html) = true := by simpa [around] using hspace
    unfold Ground.inside
    rw [if_neg hhtml]
    split
    · exact ⟨by decide, hsuits⟩
    · exact ⟨Ground.noConfusion, hsuits⟩
  have hsuited : Suited (ground.inside (around space tag.name))
      (newFrame space inner tag s :: frames) s.templateModes s.mode :=
    h.suited.cons hground (ground.fits_inside (newFrame space inner tag s).element) hinside.2
      (hnot _)
  refine h.holds_in hsuited (h.formatting.cons (hnot _)) hstart
    (fun hd => absurd (h.drops.symm.trans hd) (by decide)) fun inner' t' h' heq => ?_
  refine ⟨t'.formatting, s.mode, h'.formatting.of_cons (hnot _) (hnot _), .inl rfl, ?_⟩
  rw [h'.look_foreignEnd hspace hlower hname, heq hinside.1]

/-- The tag is that of the outermost element of a drawing or a formula. -/
theorem holds_root (h : Inside ground frames m inner s) (hground : ground ≠ .select)
    (hsuits : Ground.flow.suits s.mode) (hroot : isRoot space read.name)
    (hself : read.selfClosing = false)
    (hlook : look (.startTag read) s = (bodyStart read).run s) :
    HoldsOn (ground.inside (around space (adoptedTag space read).name)) ground frames m inner space
      (adoptedTag space read) read s := by
  obtain ⟨hspace, hname, hlower, hends, -⟩ := spelled_of_isRoot hroot
  have hstart : bodyStart read = thenDone (openForeign space read) := by
    obtain ⟨name, attributes, selfClosing⟩ := read
    rcases isRoot_iff.1 hroot with ⟨rfl, rfl⟩ | ⟨rfl, rfl⟩ <;> rfl
  have hadopted : adjustedTag space read = adoptedTag space read := by
    rw [← adjustedTag_eq hspace hself]
    exact congrArg (fun name => adjustedTag space { read with name }) hname.symm
  have hlower' : Text.asciiLower (adoptedTag space read).name.toList = read.name.toList := by
    rw [show (adoptedTag space read).name = read.name from hname, hlower]
  refine h.holds_foreign hground hsuits hspace hlower' hends ?_
  rw [hlook, hstart, ← hadopted]
  exact run_thenDone (h.run_openForeign space hself)

/-- Among text a drawing or a formula is held. -/
theorem holds_rootInFlow (h : Inside .flow frames m inner s) (read : Tag)
    (hroot : isRoot space read.name) (hself : read.selfClosing = false) :
    HoldsOn (Ground.flow.inside (around space (adoptedTag space read).name)) .flow frames m inner
      space (adoptedTag space read) read s := by
  obtain ⟨-, -, -, -, hpart⟩ := spelled_of_isRoot hroot
  exact h.holds_root (by decide) h.suited.suits hroot hself (h.look_start hpart)

/-- In an element of another vocabulary one of the same is held, or in an annotation a drawing. -/
theorem holds_alike {current : Space} (h : Inside (.foreign current) (g :: frames) m inner s)
    (space : Space) (read : Tag)
    (hself : read.selfClosing = false)
    (hlower : Text.asciiLower (adoptedTag space read).name.toList = read.name.toList)
    (hstands : if isForeign (outline (g :: frames)).head? (.startTag read) then
      space = current ∧ breaksOut read = false else isRoot space read.name) :
    HoldsOn ((Ground.foreign current).inside (around space (adoptedTag space read).name))
      (.foreign current) (g :: frames) m inner space (adoptedTag space read) read s := by
  have hforeign : isForeign s.stack.head? (.startTag read) =
      isForeign (outline (g :: frames)).head? (.startTag read) := by
    rw [h.head?_stack]
    rfl
  obtain ⟨hcurrent, hhtml, -⟩ := h.suited.fits
  rw [← hforeign] at hstands
  split at hstands
  · rename_i hin
    obtain ⟨rfl, hbreaks⟩ := hstands
    have hends : read.name ∉ ["br", "p"] := by
      have hbreakout : ∀ name ∈ ["br", "p"], breakoutNames.contains name := by decide
      intro hmem
      rw [breaksOut, hbreakout _ hmem] at hbreaks
      cases hbreaks
    have hopen : inForeign (.startTag read) = thenDone (openAlike read) :=
      if_neg (by simp [hbreaks])
    refine h.holds_foreign Ground.noConfusion h.suited.suits hhtml hlower hends ?_
    rw [look_foreign_eq hin, hopen]
    refine run_thenDone (run_bind_eq (a := some g.element) (t := s) ?_ ?_)
    · exact congrArg (·, s) h.head?_stack
    · have hspace : g.element.space = space := hcurrent
      rw [← adjustedTag_eq hhtml hself, ← hspace]
      exact h.run_openForeign _ hself
  · rename_i hout
    have hnot : isForeign s.stack.head? (.startTag read) = false := by simpa using hout
    obtain ⟨-, -, -, -, hpart, -⟩ := spelled_of_isRoot hstands
    refine h.holds_root Ground.noConfusion h.suited.suits hstands hself ?_
    rw [look_eq hnot, inMode_start h.suited.suits hpart]

end Inside

end ReleaseListing.Html
