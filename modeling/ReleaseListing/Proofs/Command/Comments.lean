import ReleaseListing.Proofs.Command.SingleJob
import ReleaseListing.Proofs.Listing.Docstring

/-!
# Where the texts of the configuration end

What a preset writes is pasted into a file in which the label of a job is a comment and the
docstring a literal. The label is all of one comment line exactly if no line ends in it
(`Text.isComment_heading_iff`), and the docstring is all of one literal exactly if it can stand
between three quotes (`Text.afterQuotes?_iff`). `Run.labels_and_docstrings_stay` says so of all that
is written.
-/

namespace ReleaseListing

namespace Text

/-- The characters that end a line of the file, and so a comment: line feed and carriage return. -/
def endsLine (c : Char) : Bool := c == '\n' || c == '\r'

/-- The text is one line, and all of it is a comment. -/
def IsComment (cs : List Char) : Prop :=
  ∃ comment, cs = '#' :: comment ++ ['\n'] ∧ comment.any endsLine = false

/-- The heading of a job is a comment exactly if no line ends in its label. -/
theorem isComment_heading_iff (label : String) :
    IsComment ("# " ++ label ++ ":" ++ "\n").toList ↔ label.toList.any endsLine = false := by
  have hopen : ("# ").toList = ['#', ' '] := by decide
  have hcolon : (":").toList = [':'] := by decide
  have hend : ("\n").toList = ['\n'] := by decide
  have hheading : ("# " ++ label ++ ":" ++ "\n").toList =
      '#' :: (' ' :: label.toList ++ [':']) ++ ['\n'] := by
    simp only [String.toList_append, hopen, hcolon, hend, List.cons_append, List.nil_append,
      List.append_assoc]
  have hlabel : (' ' :: label.toList ++ [':']).any endsLine = label.toList.any endsLine := by
    have hspace : endsLine ' ' = false := by decide
    have hlast : endsLine ':' = false := by decide
    simp [hspace, hlast]
  rw [hheading, ← hlabel]
  constructor
  · rintro ⟨comment, h, hcomment⟩
    obtain rfl := List.append_cancel_right (List.cons.inj h).2
    exact hcomment
  · exact fun h => ⟨_, rfl, h⟩

end Text

namespace Run

open Job (Stage runAll)

/-- **When the texts of a configuration stay where they are put.** The docstring of a call listing
is the literal that the listing ends with, and the literal ends with it exactly if it can stand
between three quotes. A preset writes for each of its jobs that comes to its end the heading, which
is one comment line exactly if no line ends in the label, and the listing. -/
theorem labels_and_docstrings_stay (config : Config) (f : Format) (entries : List Entry) :
    (∀ text : String, f.style = .call → f.docstring = some text →
      (Listing.render entries f).toList =
          (Listing.render entries { f with docstring := none }).toList ++
            '\n' :: (Text.quotes ++ (text.toList ++ Text.quotes)) ∧
        (Text.afterQuotes? (text.toList ++ Text.quotes) = some [] ↔
          Text.Enclosable text.toList)) ∧
    ∀ (r : Run (StateM Scene)) (name : String) (s : Scene), r.Stands name s.directory →
      ∀ (title input : String) (remainder : Option String) (preset : Preset) (page : TreePage),
        config.preset title = .ok preset → s.page? name input = some page →
        let stages := (runAll config.settings page preset.jobs).1
        stages.map (·.job) <+: preset.jobs ∧
        (s.play (r.preset config title input remainder).run).2.output =
          (stages.flatMap fun stage =>
            stage.job.heading ++ [stage.outcome.listing ++ "\n"]).reverse ++ s.output ∧
        ∀ stage ∈ stages, ∀ label, stage.job.label = some label →
          stage.job.heading = ["# " ++ label ++ ":" ++ "\n"] ∧
          (Text.IsComment ("# " ++ label ++ ":" ++ "\n").toList ↔
            label.toList.any Text.endsLine = false) := by
  refine ⟨fun text hf hd => ⟨?_, Text.afterQuotes?_iff⟩, ?_⟩
  · simp only [Listing.render, String.toList_ofList]
    exact Listing.renderChars_docstring hf hd entries
  · intro r name s h title input remainder preset page hpreset hpage stages
    refine ⟨?_, (h.play_preset hpreset hpage remainder).1, fun stage _ label hlabel => ?_⟩
    · rw [(Job.runAll_jobs config.settings page preset.jobs).1]
      exact List.take_prefix _ _
    · refine ⟨?_, Text.isComment_heading_iff label⟩
      rw [Job.heading, hlabel]
      rfl

/-- The texts of the standard configuration stay where they are put. -/
example : ∀ preset ∈ Config.standard.presets, ∀ job ∈ preset.jobs,
    (∀ label ∈ job.label, label.toList.any Text.endsLine = false) ∧
    ∀ text ∈ job.docstring, Text.Enclosable text.toList := by decide +kernel

/-- A label with a line end is not all of its comment line, and a quote at the end of a docstring is
not all of its literal: the last of the closing quotes is left over. -/
theorem line_end_and_quote_break_out :
    let job : Job := { label := some "a\nb", pattern := "", docstring := some "\"" }
    job.heading = ["# a\nb:\n"] ∧ ¬Text.IsComment "# a\nb:\n".toList ∧
      (Listing.render [] (job.format Config.standard.settings)).toList =
        '\n' :: (Text.quotes ++ ('"' :: Text.quotes)) ∧
      Text.afterQuotes? ('"' :: Text.quotes) = some ['"'] := by
  intro job
  have hheading : "# " ++ "a\nb" ++ ":" ++ "\n" = "# a\nb:\n" := by decide
  refine ⟨by decide, ?_, by decide +kernel, rfl⟩
  rw [← hheading, Text.isComment_heading_iff]
  decide

/-- The texts of the first job stay where they are put. The label of the second job has a line of
its own behind its comment, and its docstring takes the first of the closing quotes with it. -/
theorem labels_and_docstrings_stay_second :
    let config : Config := {
      record := "R", separator := "", rowLevels := 2
      presets := [⟨"two", [
        { label := some "a", pattern := "y", docstring := some "\\\"" },
        { label := some "b\nc", pattern := "y", docstring := some "\\" }]⟩] }
    let s : Scene := { directory := ⟨[(["page.html"], some (bytes "<a href=/x>x</a>"))]⟩ }
    let r : Run (StateM Scene) :=
      { host := Scene.host "/here"
        environment := { arguments := [], configHome := "", stateHome := "" }
        filter := Log.Filter.standard, logFile := none }
    (s.play (r.preset config "two" "page.html" none).run).2.output =
        ["\n\"\"\"\\\"\"\"\n", "# b\nc:\n", "\n\"\"\"\\\"\"\"\"\n", "# a:\n"] ∧
      Text.IsComment "# a:\n".toList ∧ ¬Text.IsComment "# b\nc:\n".toList ∧
      Text.Enclosable "\\\"".toList ∧ ¬Text.Enclosable "\\".toList := by
  intro config s r
  have hstands : r.Stands "/here" s.directory := stands_of_none rfl rfl
  have hdocstring := fun text =>
    (labels_and_docstrings_stay config { docstring := some text } []).1 text rfl rfl
  obtain ⟨-, houtput, hheadings⟩ := (labels_and_docstrings_stay config {} []).2 r "/here" s hstands
    "two" "page.html" none ⟨"two", config.presets.flatMap (·.jobs)⟩
    (.ofSource "<a href=/x>x</a>") (by decide +kernel) (by decide +kernel)
  have hcomment : ∀ label ∈ ["a", "b\nc"],
      (Text.IsComment ("# " ++ label ++ ":" ++ "\n").toList ↔
        label.toList.any Text.endsLine = false) := by
    have hlabels : (runAll config.settings (TreePage.ofSource "<a href=/x>x</a>")
        (config.presets.flatMap (·.jobs))).1.filterMap (·.job.label) = ["a", "b\nc"] := by
      decide +kernel
    intro label hmem
    obtain ⟨stage, hs, hstage⟩ := List.mem_filterMap.1 (hlabels ▸ hmem)
    exact (hheadings stage hs label hstage).2
  refine ⟨?_, (hcomment "a" (by decide)).2 (by decide), ?_, ?_, ?_⟩
  · rw [houtput]
    decide +kernel
  · exact mt (hcomment "b\nc" (by decide)).1 (by decide)
  · exact (hdocstring "\\\"").2.1 rfl
  · exact mt (hdocstring "\\").2.2 (by decide)

end Run

end ReleaseListing
