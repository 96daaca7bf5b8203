import Mathlib.Algebra.BigOperators.Group.List.Basic
import Mathlib.Algebra.GroupWithZero.Nat
import Mathlib.Data.List.Infix
import Mathlib.Tactic.FinCases
import ReleaseListing.Proofs.Job.Stages
import ReleaseListing.Proofs.Page.Entries

/-!
# Jobs that sort the anchors of a page

Patterns that start with the same mark, none of which is the start of another, never occur in the
same text if the mark stands in it at one position at most (`Text.Apart.countP_le`). Jobs with such
patterns that remove no rows and have no base URL sort the anchors of a page, in whatever order they
run (`Job.sorts_of_apart`). The statistics preset of the standard configuration has such jobs
(`statistics_sort`).
-/

namespace ReleaseListing

namespace Text

variable {mark cs p q : List Char} {patterns : List (List Char)}

/-- The ends of a text that start with the mark: one for each position at which it stands. -/
def endsFrom (mark cs : List Char) : List (List Char) := cs.tails.filter mark.isPrefixOf

/-- The mark stands at no more than one position of the text. -/
def AtMostOnce (mark cs : List Char) : Prop := (endsFrom mark cs).length ≤ 1

instance (mark cs : List Char) : Decidable (AtMostOnce mark cs) :=
  inferInstanceAs (Decidable (_ ≤ 1))

/-- The patterns start with the mark, and none of them is the start of another. -/
structure Apart (mark : List Char) (patterns : List (List Char)) : Prop where
  marked : ∀ p ∈ patterns, mark <+: p
  pairwise : patterns.Pairwise fun p q => ¬p <+: q ∧ ¬q <+: p

theorem Apart.perm {others : List (List Char)} (h : Apart mark patterns)
    (hperm : others.Perm patterns) : Apart mark others where
  marked p hp := h.marked p (hperm.mem_iff.1 hp)
  pairwise := (hperm.pairwise_iff fun h => ⟨h.2, h.1⟩).2 h.pairwise

theorem exists_mem_endsFrom (hmark : mark <+: p) (h : occursIn p cs = true) :
    ∃ tail ∈ endsFrom mark cs, p <+: tail := by
  obtain ⟨tail, hp, htail⟩ := List.infix_iff_prefix_suffix.1 (occursIn_eq_true_iff.1 h)
  refine ⟨tail, List.mem_filter.2 ⟨(List.mem_tails _ _).2 htail, ?_⟩, hp⟩
  exact List.isPrefixOf_iff_prefix.2 (hmark.trans hp)

/-- Two patterns that occur in the same text stand at the position of the mark, so one of them is
the start of the other. -/
theorem AtMostOnce.prefix_or_prefix (h : AtMostOnce mark cs) (hp : mark <+: p) (hq : mark <+: q)
    (hpcs : occursIn p cs = true) (hqcs : occursIn q cs = true) : p <+: q ∨ q <+: p := by
  obtain ⟨s, hs, hps⟩ := exists_mem_endsFrom hp hpcs
  obtain ⟨t, ht, hqt⟩ := exists_mem_endsFrom hq hqcs
  obtain rfl : s = t := by
    match hends : endsFrom mark cs with
    | [] => rw [hends] at hs; cases hs
    | [u] =>
      rw [hends, List.mem_singleton] at hs ht
      rw [hs, ht]
    | _ :: _ :: _ => simp [AtMostOnce, hends] at h
  exact List.prefix_or_prefix_of_prefix hps hqt

/-- Of patterns that are apart no more than one occurs in a text. -/
theorem Apart.countP_le (h : Apart mark patterns) (hcs : AtMostOnce mark cs) :
    patterns.countP (occursIn · cs) ≤ 1 := by
  obtain ⟨hmarked, hpairwise⟩ := h
  induction patterns with
  | nil => exact Nat.zero_le _
  | cons p patterns ih =>
    obtain ⟨hp, hmarked⟩ := List.forall_mem_cons.1 hmarked
    obtain ⟨hfirst, hpairwise⟩ := List.pairwise_cons.1 hpairwise
    rw [List.countP_cons]
    split
    · rename_i hoccurs
      rw [List.countP_eq_zero.2]
      intro q hq hqcs
      exact (hcs.prefix_or_prefix hp (hmarked q hq) hoccurs hqcs).elim (hfirst q hq).1
        (hfirst q hq).2
    · exact ih hmarked hpairwise

/-- Where the mark stands twice, two of them can. -/
example : ["--as_stats2.csv", "--route_stats2.csv"].countP
    (occursIn ·.toList "x--as_stats2.csv--route_stats2.csv".toList) = 2 := by decide

end Text

/-! ## Counting by categories -/

section

variable {ι α : Type} {categories : List ι} {lies : ι → α → Bool} {as : List α}

theorem sum_map_ite (p : ι → Bool) (is : List ι) :
    (is.map fun i => if p i then 1 else 0).sum = is.countP p := by
  induction is with
  | nil => rfl
  | cons i is ih => rw [List.map_cons, List.sum_cons, ih, List.countP_cons, Nat.add_comm]

theorem countP_eq_ite {p : ι → Bool} {is : List ι} (h : is.countP p ≤ 1) :
    is.countP p = if is.any p then 1 else 0 := by
  split
  · rename_i hany
    exact Nat.le_antisymm h (List.countP_pos_iff.2 (List.any_eq_true.1 hany))
  · rename_i hany
    exact List.countP_eq_zero.2 fun i hi hp => hany (List.any_eq_true.2 ⟨i, hi, hp⟩)

/-- If everything lies in one category at most, the categories together have as many elements as lie
in one of them. -/
theorem sum_countP (h : ∀ a ∈ as, categories.countP (lies · a) ≤ 1) :
    (categories.map fun i => as.countP (lies i)).sum =
      as.countP fun a => categories.any (lies · a) := by
  induction as with
  | nil => simp
  | cons a as ih =>
    obtain ⟨ha, has⟩ := List.forall_mem_cons.1 h
    simp only [List.countP_cons, List.sum_map_add, ih has, sum_map_ite, countP_eq_ite ha]

end

namespace Job

section

variable {P : Type} [Page P] {job : Job} {jobs : List Job} {settings : Settings} {page : P}
  {anchors : List PlacedAnchor} {mark : List Char}

/-- The anchor's link contains the pattern of the job. -/
def wants (job : Job) (a : PlacedAnchor) : Bool :=
  Text.occursIn job.pattern.toList a.anchor.href.toList

/-! ## Jobs that only list -/

/-- The job removes no rows and has no base URL. -/
structure Plain (job : Job) : Prop where
  removesRows : job.removesRows = false
  baseUrl : job.baseUrl = none

/-- The entries of a job that has no base URL. -/
def plainExtraction (job : Job) : Extraction :=
  { pattern := job.pattern, start := job.start, strategy := job.strategy }

/-- The stage of a plain job: it leaves its page as it is. -/
def plainStage (settings : Settings) (page : P) (anchors : List PlacedAnchor) (job : Job) :
    Stage P where
  job := job
  page := page
  outcome :=
    { listing := Listing.render
        ((anchors.filter job.wants).map fun a => job.plainExtraction.entry a.anchor)
        (job.format settings)
      matched := anchors.countP job.wants
      removed := 0 }
  rest := page

theorem Plain.extraction (h : job.Plain) : job.extraction = .ok job.plainExtraction := by
  simp [Job.extraction, h.baseUrl, plainExtraction, bind, Except.bind, pure, Except.pure]

theorem Plain.run (h : job.Plain) (settings : Settings) (ha : Page.anchors? page = some anchors) :
    job.run settings page = .ok ((plainStage settings page anchors job).outcome, page) := by
  have hrun := run_eq settings h.extraction ha
  rw [h.removesRows] at hrun
  refine hrun.trans ?_
  rw [plainStage, List.countP_eq_length_filter, Extraction.entries, List.length_map]
  rfl

/-- Plain jobs all come to their end, and each finds the page as it was. -/
theorem runAll_plain (hjobs : ∀ job ∈ jobs, job.Plain) (settings : Settings)
    (ha : Page.anchors? page = some anchors) :
    runAll settings page jobs = (jobs.map (plainStage settings page anchors), none) := by
  induction jobs with
  | nil => rfl
  | cons job jobs ih =>
    obtain ⟨hjob, hjobs⟩ := List.forall_mem_cons.1 hjobs
    rw [runAll_cons_ok (hjob.run settings ha), ih hjobs]
    rfl

/-! ## Jobs that sort -/

/-- The jobs of a run sort the anchors: all come to their end, each lists the anchors that it wants,
in the order of the page, and leaves the page as it is. No anchor is listed by two jobs, and all
jobs together match as many anchors as are wanted by one of them. -/
structure Sorts (settings : Settings) (page : P) (anchors : List PlacedAnchor)
    (jobs : List Job) : Prop where
  complete : (runAll settings page jobs).2 = none ∧
    (runAll settings page jobs).1.map (·.job) = jobs
  unchanged : ∀ s ∈ (runAll settings page jobs).1,
    s.page = page ∧ s.rest = page ∧ s.outcome.removed = 0
  listed : ∀ s ∈ (runAll settings page jobs).1,
    s.job.listed s.page = anchors.filter s.job.wants ∧
      s.outcome.matched = (anchors.filter s.job.wants).length ∧
      ∃ x, s.job.extraction = .ok x ∧
        s.outcome.listing = Listing.render
          ((anchors.filter s.job.wants).map fun a => x.entry a.anchor) (s.job.format settings)
  once : ∀ a ∈ anchors,
    (runAll settings page jobs).1.countP (fun s => a ∈ s.job.listed s.page) ≤ 1
  total : ((runAll settings page jobs).1.map (·.outcome.matched)).sum =
    anchors.countP fun a => jobs.any (·.wants a)

theorem listed_eq (ha : Page.anchors? page = some anchors) (job : Job) :
    job.listed page = anchors.filter job.wants := by
  rw [Job.listed, ha]
  rfl

/-- Plain jobs whose patterns are apart sort the anchors of a page in whose links the mark stands at
one position at most. -/
theorem sorts_of_apart (hjobs : ∀ job ∈ jobs, job.Plain)
    (hpatterns : Text.Apart mark (jobs.map (·.pattern.toList))) (settings : Settings)
    (ha : Page.anchors? page = some anchors)
    (hmark : ∀ a ∈ anchors, Text.AtMostOnce mark a.anchor.href.toList) :
    Sorts settings page anchors jobs := by
  have hrun := runAll_plain hjobs settings ha
  have hwants : ∀ a ∈ anchors, jobs.countP (·.wants a) ≤ 1 := by
    intro a hmem
    have hcount := hpatterns.countP_le (hmark a hmem)
    rw [List.countP_map] at hcount
    exact hcount
  have hstage : ∀ s ∈ (runAll settings page jobs).1,
      s.job.Plain ∧ s = plainStage settings page anchors s.job := by
    rw [hrun]
    exact List.forall_mem_map.2 fun job hj => ⟨hjobs job hj, rfl⟩
  refine ⟨?_, fun s hs => ?_, fun s hs => ?_, fun a hmem => ?_, ?_⟩
  · rw [hrun]
    exact ⟨rfl, List.map_map.trans (List.map_id' _)⟩
  · obtain ⟨-, heq⟩ := hstage s hs
    rw [heq]
    exact ⟨rfl, rfl, rfl⟩
  · obtain ⟨hplain, heq⟩ := hstage s hs
    rw [heq]
    exact ⟨listed_eq ha s.job, List.countP_eq_length_filter, _, hplain.extraction, rfl⟩
  · rw [hrun, List.countP_map]
    refine (List.countP_congr fun job _ => ?_).trans_le (hwants a hmem)
    simp [plainStage, listed_eq ha, hmem]
  · rw [hrun, List.map_map]
    exact sum_countP hwants

end

end Job

/-! ## The statistics preset -/

theorem plain_statisticsJob (label pattern : String) : (Config.statisticsJob label pattern).Plain :=
  ⟨rfl, rfl⟩

theorem jobs_statistics {preset : Preset} (h : Config.standard.preset "stats2" = .ok preset) :
    preset.jobs =
      [Config.statisticsJob "AS stats" "--as_stats2.csv",
       Config.statisticsJob "AS pair stats" "--as_pair_stats2.csv",
       Config.statisticsJob "Route stats" "--route_stats2.csv",
       Config.statisticsJob "Route first-hop stats" "--route_first_hop_stats2.csv"] := by
  have hfirst : Config.standard.preset "stats2" = .ok ⟨"stats2", _⟩ := rfl
  obtain rfl := Except.ok.inj (h.symm.trans hfirst)
  rfl

theorem apart_statistics : Text.Apart "--".toList
    ["--as_stats2.csv".toList, "--as_pair_stats2.csv".toList, "--route_stats2.csv".toList,
      "--route_first_hop_stats2.csv".toList] := ⟨by decide, by decide⟩

open Job (Sorts)

/-- **The statistics jobs sort assets into disjoint categories.** In whatever order the four jobs of
the preset run on a table, or on a page read from HTML that has `html`, in whose links `--` stands
at one position at most: no anchor is listed by two of them, each lists its anchors in the order of
the page, together they match as many anchors as contain one of the patterns, and the page stays as
it is. -/
theorem statistics_sort (settings : Settings) {preset : Preset}
    (hpreset : Config.standard.preset "stats2" = .ok preset) {jobs : List Job}
    (hjobs : jobs.Perm preset.jobs) :
    (∀ table : TablePage,
      (∀ a ∈ table.anchors, Text.AtMostOnce "--".toList a.anchor.href.toList) →
        Sorts settings table table.anchors jobs) ∧
    ∀ source removals,
      let page := (TreePage.ofSource source).removeAll removals
      ∃ html attributes children, (TreePage.ofSource source).nodes.firstElement? =
          some (.single html (.element .html "html" attributes) children) ∧
        (html ∈ page.nodes.ids → ∃ anchors, Page.anchors? page = some anchors ∧
          ((∀ a ∈ anchors, Text.AtMostOnce "--".toList a.anchor.href.toList) →
            Sorts settings page anchors jobs)) := by
  have hfour := jobs_statistics hpreset
  have hplain : ∀ job ∈ jobs, job.Plain := by
    intro job hj
    rw [hjobs.mem_iff, hfour] at hj
    fin_cases hj <;> exact plain_statisticsJob _ _
  have hapart : Text.Apart "--".toList (jobs.map (·.pattern.toList)) := by
    refine Text.Apart.perm ?_ (hjobs.map _)
    rw [hfour]
    exact apart_statistics
  refine ⟨fun table hmark => ?_, fun source removals => ?_⟩
  · exact Job.sorts_of_apart hplain hapart settings rfl hmark
  · intro page
    obtain ⟨html, attributes, children, hfirst, hpage⟩ := TreePage.exists_anchors source removals
    refine ⟨html, attributes, children, hfirst, fun hattached => ?_⟩
    obtain ⟨anchors, hanchors, -⟩ := hpage hattached
    exact ⟨anchors, hanchors, Job.sorts_of_apart hplain hapart settings hanchors⟩

/-- The jobs in the opposite order, on links that nearly match another job. -/
theorem statistics_sort_reversed :
    let table := TablePage.addRow [(some "d/x--route_stats2.csv", "x"),
      (some "d/x--route_first_hop_stats2.csv", "x"), (some "d/y--route_stats2.csv.gz", "y"),
      (some "d/z--as_pair_stats.csv", "z")] {}
    let source := "<a href=x--as_stats2.csv>x</a>"
    let page := (TreePage.ofSource source).removeAll []
    let preset := Config.standardPresets.head (by decide)
    let settings := Config.standard.settings
    Config.standard.preset "stats2" = .ok preset ∧
      (∀ a ∈ table.anchors, Text.AtMostOnce "--".toList a.anchor.href.toList) ∧
      Sorts settings table table.anchors preset.jobs.reverse ∧
      (Job.runAll settings table preset.jobs.reverse).1.map (·.outcome.matched) = [1, 2, 0, 0] ∧
      1 ∈ page.nodes.ids ∧ ∃ anchors, Page.anchors? page = some anchors ∧
        (∀ a ∈ anchors, Text.AtMostOnce "--".toList a.anchor.href.toList) ∧
        Sorts settings page anchors preset.jobs.reverse := by
  intro table source page preset settings
  have hpreset : Config.standard.preset "stats2" = .ok preset := rfl
  obtain ⟨htable, hpage⟩ := statistics_sort settings hpreset (List.reverse_perm preset.jobs)
  have htablemark : ∀ a ∈ table.anchors, Text.AtMostOnce "--".toList a.anchor.href.toList := by
    decide +kernel
  obtain ⟨html, attributes, children, hfirst, hattached⟩ := hpage source []
  have hread : (TreePage.ofSource source).nodes.firstElement?.map Html.Forest.roots = some [1] ∧
      1 ∈ page.nodes.ids ∧ (Page.anchors? page).map (·.all fun a =>
        decide (Text.AtMostOnce "--".toList a.anchor.href.toList)) = some true := by
    decide +kernel
  obtain ⟨hroots, hmem, hmarks⟩ := hread
  rw [hfirst] at hroots
  obtain rfl : html = 1 := List.singleton_injective (Option.some.inj hroots)
  obtain ⟨anchors, hanchors, hsorts⟩ := hattached hmem
  rw [hanchors] at hmarks
  have hmark : ∀ a ∈ anchors, Text.AtMostOnce "--".toList a.anchor.href.toList := fun a ha =>
    of_decide_eq_true (List.all_eq_true.1 (Option.some.inj hmarks) a ha)
  exact ⟨hpreset, htablemark, htable table htablemark, by decide +kernel, hmem, anchors, hanchors,
    hmark, hsorts hmark⟩

end ReleaseListing
