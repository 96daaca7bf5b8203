import Mathlib.Data.List.Perm.Basic
import ReleaseListing.Config.Text
import ReleaseListing.Proofs.Reading

/-!
# Tables that give a configuration

Which configuration a table gives depends on the values under the keys that a configuration knows
(`GivesJob`, `GivesPreset`, `GivesConfig`), on their order not at all. So the table of a
configuration gives it back (`givesConfig_toTable`), and further entries and another order in any of
the tables make no difference (`Widened`, `GivesConfig.of_widened`).
-/

namespace ReleaseListing.Config

open Toml (Value Entries)

variable {α : Type} {entries entries' : Entries} {name : String}
  {read : Value → Except Mismatch α} {v v' : Value} {job : Job} {preset : Preset} {config : Config}

/-! ## What the readers give -/

theorem check_eq_ok_iff {result : Except Mismatch α} :
    check result = .ok () ↔ ∃ a, result = .ok a := by
  cases result <;> simp [check, Except.map]

theorem optional_eq_ok_iff {a : Option α} :
    optional entries name read = .ok a ↔
      (entries.lookup name = none ∧ a = none) ∨
        ∃ v b, entries.lookup name = some v ∧ read v = .ok b ∧ a = some b := by
  unfold optional
  cases entries.lookup name with
  | none => simp [pure, Except.pure, eq_comm]
  | some v =>
    show (some <$> read v : Except Mismatch (Option α)) = .ok a ↔ _
    cases h : read v <;> simp [Functor.map, Except.map, h, eq_comm]

theorem required_eq_ok_iff {missing : Mismatch} {a : α} :
    required entries missing name read = .ok a ↔ optional entries name read = .ok (some a) := by
  rw [optional_eq_ok_iff]
  unfold required
  cases entries.lookup name <;> simp

/-- The entries are those of a job. -/
structure GivesJob (entries : Entries) (job : Job) : Prop where
  fits : ∀ e ∈ entries, checkJobEntry e = .ok ()
  label : optional entries "label" readString = .ok job.label
  pattern : optional entries "pattern" readString = .ok (some job.pattern)
  start : ∃ a, optional entries "prefix" readString = .ok a ∧ job.start = a.getD ""
  strategy : ∃ a, optional entries "strategy" readStrategy = .ok a ∧
    job.strategy = a.getD .pathTail
  style : ∃ a, optional entries "format" readStyle = .ok a ∧ job.style = a.getD .call
  baseUrl : optional entries "base_url" readString = .ok job.baseUrl
  assign : optional entries "assign" readString = .ok job.assign
  docstring : optional entries "docstring" readString = .ok job.docstring
  removesRows : ∃ a, optional entries "remove_rows" readBoolean = .ok a ∧
    job.removesRows = a.getD false

theorem readJob_eq_ok_iff :
    readJob v = .ok job ↔
      ∃ entries missing, readRecord "ListingJob" jobFields v = .ok (entries, missing) ∧
        GivesJob entries job := by
  simp only [readJob, bind_eq_ok_iff, required_eq_ok_iff]
  constructor
  · rintro ⟨⟨entries, missing⟩, hrecord, ⟨⟩, hfits, pattern, hpattern, label, hlabel, start, hstart,
      strategy, hstrategy, style, hstyle, baseUrl, hbase, assign, hassign, docstring, hdoc, removes,
      hremoves, h⟩
    obtain rfl := Except.ok.inj h
    exact ⟨entries, missing, hrecord, forM_eq_ok_iff.1 hfits, hlabel, hpattern, ⟨_, hstart, rfl⟩,
      ⟨_, hstrategy, rfl⟩, ⟨_, hstyle, rfl⟩, hbase, hassign, hdoc, ⟨_, hremoves, rfl⟩⟩
  · rintro ⟨entries, missing, hrecord, hfits, hlabel, hpattern, ⟨start, hstart, hstart'⟩,
      ⟨strategy, hstrategy, hstrategy'⟩, ⟨style, hstyle, hstyle'⟩, hbase, hassign, hdoc,
      ⟨removes, hremoves, hremoves'⟩⟩
    refine ⟨(entries, missing), hrecord, (), forM_eq_ok_iff.2 hfits, _, hpattern, _, hlabel, _,
      hstart, _, hstrategy, _, hstyle, _, hbase, _, hassign, _, hdoc, _, hremoves, ?_⟩
    rw [← hstart', ← hstrategy', ← hstyle', ← hremoves']
    rfl

/-- The entries are those of a preset. -/
structure GivesPreset (entries : Entries) (preset : Preset) : Prop where
  fits : ∀ e ∈ entries, checkPresetEntry e = .ok ()
  name : optional entries "name" readString = .ok (some preset.name)
  jobs : ∃ a, optional entries "jobs" readJobs = .ok a ∧ preset.jobs = a.getD []

theorem readPreset_eq_ok_iff :
    readPreset v = .ok preset ↔
      ∃ entries missing, readRecord "Preset" ["name", "jobs"] v = .ok (entries, missing) ∧
        GivesPreset entries preset := by
  simp only [readPreset, bind_eq_ok_iff, required_eq_ok_iff]
  constructor
  · rintro ⟨⟨entries, missing⟩, hrecord, ⟨⟩, hfits, title, htitle, jobs, hjobs, h⟩
    obtain rfl := Except.ok.inj h
    exact ⟨entries, missing, hrecord, forM_eq_ok_iff.1 hfits, htitle, ⟨_, hjobs, rfl⟩⟩
  · rintro ⟨entries, missing, hrecord, hfits, htitle, ⟨jobs, hjobs, hjobs'⟩⟩
    refine ⟨(entries, missing), hrecord, (), forM_eq_ok_iff.2 hfits, _, htitle, _, hjobs, ?_⟩
    rw [← hjobs']
    rfl

/-- The entries are those of a configuration. -/
structure GivesConfig (entries : Entries) (config : Config) : Prop where
  fits : ∀ e ∈ entries, checkEntry e = .ok ()
  record : optional entries "record" readString = .ok (some config.record)
  separator : optional entries "separator" readString = .ok (some config.separator)
  rowLevels : optional entries "row_levels" readNat = .ok (some config.rowLevels)
  presets : ∃ a, optional entries "presets" readPresets = .ok a ∧ config.presets = a.getD []

theorem ofTable_eq_ok_iff : ofTable entries = .ok config ↔ GivesConfig entries config := by
  simp only [ofTable, bind_eq_ok_iff, required_eq_ok_iff]
  constructor
  · rintro ⟨⟨⟩, hfits, record, hrecord, separator, hseparator, levels, hlevels, presets, hpresets, h⟩
    obtain rfl := Except.ok.inj h
    exact ⟨forM_eq_ok_iff.1 hfits, hrecord, hseparator, hlevels, ⟨_, hpresets, rfl⟩⟩
  · rintro ⟨hfits, hrecord, hseparator, hlevels, ⟨presets, hpresets, hpresets'⟩⟩
    refine ⟨(), forM_eq_ok_iff.2 hfits, _, hrecord, _, hseparator, _, hlevels, _, hpresets, ?_⟩
    rw [← hpresets']
    rfl

/-! ## The table of a configuration -/

theorem lookup_cons (key : String) (v : Value) (entries : Entries) (name : String) :
    ((key, v) :: entries : Entries).lookup name =
      if name = key then some v else entries.lookup name := by
  rw [List.lookup_cons]
  by_cases h : name = key
  · simp [h]
  · rw [if_neg h, show (name == key) = false by simpa using h]

theorem lookup_textEntry (key : String) (text : Option String) (name : String) :
    (textEntry key text).lookup name = if name = key then text.map .string else none := by
  cases text with
  | none => simp [textEntry]
  | some s => simp [textEntry, lookup_cons]

theorem optional_of_lookup {o : Option α} {value : α → Value}
    (hl : entries.lookup name = o.map value) (hread : ∀ a, read (value a) = .ok a) :
    optional entries name read = .ok o := by
  rw [optional_eq_ok_iff, hl]
  cases o with
  | none => exact .inl ⟨rfl, rfl⟩
  | some a => exact .inr ⟨_, _, rfl, hread a, rfl⟩

theorem readStrategy_name (strategy : Strategy) :
    readStrategy (.string strategy.name) = .ok strategy := by
  cases strategy <;> rfl

theorem readStyle_name (style : Style) : readStyle (.string style.name) = .ok style := by
  cases style <;> rfl

theorem mem_textEntry {key : String} {text : Option String} {e : String × Value} :
    e ∈ textEntry key text ↔ ∃ s, text = some s ∧ e = (key, .string s) := by
  cases text <;> simp [textEntry]

theorem checkJobEntry_jobTable (job : Job) : ∀ e ∈ jobTable job, checkJobEntry e = .ok () := by
  intro e he
  simp only [jobTable, List.mem_append, mem_textEntry, List.mem_cons, List.not_mem_nil,
    or_false] at he
  rcases he with ((((⟨s, -, rfl⟩ | rfl | rfl | rfl | rfl) | ⟨s, -, rfl⟩) | ⟨s, -, rfl⟩) |
    ⟨s, -, rfl⟩) | rfl
  case inl.inl.inl.inl.inr.inr.inr.inl => exact check_eq_ok_iff.2 ⟨_, readStrategy_name _⟩
  case inl.inl.inl.inl.inr.inr.inr.inr => exact check_eq_ok_iff.2 ⟨_, readStyle_name _⟩
  all_goals rfl

theorem givesJob_jobTable (job : Job) : GivesJob (jobTable job) job := by
  have hfound : ∀ {α : Type} {read : Value → Except Mismatch α} {name : String} {v : Value} {a : α},
      (jobTable job).lookup name = some v → read v = .ok a →
        optional (jobTable job) name read = .ok (some a) :=
    fun hl hread => optional_eq_ok_iff.2 (.inr ⟨_, _, hl, hread, rfl⟩)
  have htext : ∀ {name : String} {text : Option String},
      (jobTable job).lookup name = text.map .string →
        optional (jobTable job) name readString = .ok text :=
    fun hl => optional_of_lookup hl fun _ => rfl
  have hstring : ∀ s, readString (.string s) = .ok s := fun _ => rfl
  have hboolean : ∀ b, readBoolean (.boolean b) = .ok b := fun _ => rfl
  refine ⟨checkJobEntry_jobTable job, htext ?_, hfound ?_ (hstring _),
    ⟨_, hfound ?_ (hstring _), rfl⟩, ⟨_, hfound ?_ (readStrategy_name _), rfl⟩,
    ⟨_, hfound ?_ (readStyle_name _), rfl⟩, htext ?_, htext ?_, htext ?_,
    ⟨_, hfound ?_ (hboolean _), rfl⟩⟩ <;>
  simp [jobTable, List.lookup_append, lookup_cons, lookup_textEntry]

theorem readJob_jobTable (job : Job) : readJob (.table .header (jobTable job)) = .ok job :=
  readJob_eq_ok_iff.2 ⟨_, _, rfl, givesJob_jobTable job⟩

theorem mapM_eq_ok {β : Type} {f : β → Value} {read : Value → Except Mismatch β} {bs : List β}
    (h : ∀ b, read (f b) = .ok b) : (bs.map f).mapM read = .ok bs := by
  induction bs with
  | nil => rfl
  | cons b bs ih =>
    rw [List.map_cons, List.mapM_cons, h, ih]
    rfl

theorem readJobs_tables (jobs : List Job) : readJobs (.tables (jobs.map jobTable)) = .ok jobs := by
  show ((jobs.map jobTable).map (Value.table .header)).mapM readJob = _
  rw [List.map_map]
  exact mapM_eq_ok readJob_jobTable

theorem readPreset_presetTable (preset : Preset) :
    readPreset (.table .header (presetTable preset)) = .ok preset := by
  have hjobs := readJobs_tables preset.jobs
  refine readPreset_eq_ok_iff.2 ⟨_, _, rfl, ?_, rfl, ⟨some preset.jobs, ?_, rfl⟩⟩
  · exact List.forall_mem_cons.2 ⟨rfl, List.forall_mem_singleton.2
      (check_eq_ok_iff.2 ⟨_, hjobs⟩)⟩
  · exact optional_eq_ok_iff.2 (.inr ⟨_, _, rfl, hjobs, rfl⟩)

theorem readPresets_tables (presets : List Preset) :
    readPresets (.tables (presets.map presetTable)) = .ok presets := by
  show ((presets.map presetTable).map (Value.table .header)).mapM readPreset = _
  rw [List.map_map]
  exact mapM_eq_ok readPreset_presetTable

/-- The table of a configuration gives it back. -/
theorem givesConfig_toTable (config : Config) : GivesConfig config.toTable config := by
  have hpresets := readPresets_tables config.presets
  refine ⟨?_, rfl, rfl, rfl, ⟨some config.presets, ?_, rfl⟩⟩
  · simp only [toTable, List.forall_mem_cons]
    exact ⟨rfl, rfl, rfl, check_eq_ok_iff.2 ⟨_, hpresets⟩, fun _ h => absurd h List.not_mem_nil⟩
  · exact optional_eq_ok_iff.2 (.inr ⟨_, _, rfl, hpresets, rfl⟩)

/-! ## Further entries and another order -/

/-- The entries of `entries` with values alike, among further ones whose keys are not known, in any
order. No two of them have the same key. -/
structure Widened (known : List String) (alike : String → Value → Value → Prop)
    (entries entries' : Entries) : Prop where
  keys : (entries'.map (·.1)).Nodup
  perm : ∃ changed extra, entries'.Perm (changed ++ extra) ∧
    List.Forall₂ (fun e e' => e.1 = e'.1 ∧ alike e.1 e.2 e'.2) entries changed ∧
    ∀ e ∈ extra, e.1 ∉ known

/-- The same value, or lists whose items are alike, however the lists are written. -/
inductive ListAlike (alike : Value → Value → Prop) : Value → Value → Prop where
  | same (v : Value) : ListAlike alike v v
  | items {v v' : Value} {items items' : List Value} (hv : readItems v = .ok items)
    (hv' : readItems v' = .ok items') (h : List.Forall₂ alike items items') : ListAlike alike v v'

/-- The same value, or the table of a job widened. -/
inductive JobAlike : Value → Value → Prop where
  | same (v : Value) : JobAlike v v
  | table {style style' : Toml.TableStyle} {entries entries' : Entries}
    (h : Widened jobFields (fun _ => Eq) entries entries') :
    JobAlike (.table style entries) (.table style' entries')

/-- The same value, except that the jobs of a preset may be alike. -/
def PresetEntryAlike (name : String) (v v' : Value) : Prop :=
  if name = "jobs" then ListAlike JobAlike v v' else v = v'

/-- The same value, or the table of a preset widened, down to the jobs. A list that gives the
preset by the order of its items has no keys of its own, but its jobs may have. -/
inductive PresetAlike : Value → Value → Prop where
  | same (v : Value) : PresetAlike v v
  | table {style style' : Toml.TableStyle} {entries entries' : Entries}
    (h : Widened ["name", "jobs"] PresetEntryAlike entries entries') :
    PresetAlike (.table style entries) (.table style' entries')
  | array {name jobs jobs' : Value} {rest : List Value} (h : ListAlike JobAlike jobs jobs') :
    PresetAlike (.array (name :: jobs :: rest)) (.array (name :: jobs' :: rest))

/-- The same value, except that the presets of a configuration may be alike. -/
def EntryAlike (name : String) (v v' : Value) : Prop :=
  if name = "presets" then ListAlike PresetAlike v v' else v = v'

/-- The keys of a configuration. -/
def fields : List String := ["record", "separator", "row_levels", "presets"]

section Widened

variable {known : List String} {alike : String → Value → Value → Prop}

theorem lookup_eq_none_iff_not_mem : entries.lookup name = none ↔ name ∉ entries.map (·.1) := by
  rw [List.lookup_eq_none_iff, List.mem_map]
  constructor
  · rintro h ⟨e, he, rfl⟩
    simpa using h e he
  · intro h e he
    simp only [bne_iff_ne]
    rintro rfl
    exact h ⟨e, he, rfl⟩

theorem lookup_rel (h : List.Forall₂ (fun e e' => e.1 = e'.1 ∧ alike e.1 e.2 e'.2) entries entries')
    (name : String) :
    Option.Rel (alike name) (entries.lookup name) (entries'.lookup name) := by
  induction h with
  | nil => exact .none
  | @cons e e' es es' he _ ih =>
    obtain ⟨key, v⟩ := e
    obtain ⟨key', v'⟩ := e'
    obtain ⟨rfl, hv⟩ := he
    rw [lookup_cons, lookup_cons]
    by_cases hname : name = key
    · subst hname
      simpa using Option.Rel.some hv
    · simpa [hname] using ih

/-- Under a key that is known, there are values alike, or none. -/
theorem Widened.lookup_rel (h : Widened known alike entries entries') (hname : name ∈ known) :
    Option.Rel (alike name) (entries.lookup name) (entries'.lookup name) := by
  obtain ⟨changed, extra, hperm, hchanged, hextra⟩ := h.perm
  have hkeys : ((changed ++ extra).map (·.1)).Nodup := (hperm.map _).nodup_iff.1 h.keys
  have hrel := Config.lookup_rel hchanged name
  suffices hsame : entries'.lookup name = changed.lookup name by rwa [hsame]
  cases hl : changed.lookup name with
  | none =>
    rw [lookup_eq_none_iff_not_mem] at hl ⊢
    rw [(hperm.map _).mem_iff, List.map_append, List.mem_append]
    rintro (hm | hm)
    · exact hl hm
    · obtain ⟨e, he, rfl⟩ := List.mem_map.1 hm
      exact hextra e he hname
  | some v =>
    rw [List.map_append] at hkeys
    have hm := (lookup_eq_some_iff_mem hkeys.of_append_left).1 hl
    exact (lookup_eq_some_iff_mem h.keys).2 (hperm.mem_iff.2 (List.mem_append_left _ hm))

theorem Widened.optional {a : Option α} (h : Widened known alike entries entries')
    (hname : name ∈ known) (hread : ∀ {v v' b}, alike name v v' → read v = .ok b → read v' = .ok b)
    (ha : optional entries name read = .ok a) : optional entries' name read = .ok a := by
  have hrel := h.lookup_rel hname
  rw [optional_eq_ok_iff] at ha ⊢
  obtain ⟨hl, rfl⟩ | ⟨v, b, hl, hb, rfl⟩ := ha
  · rw [hl] at hrel
    cases h' : entries'.lookup name with
    | none => exact .inl ⟨rfl, rfl⟩
    | some v' =>
      rw [h'] at hrel
      cases hrel
  · rw [hl] at hrel
    cases h' : entries'.lookup name with
    | none =>
      rw [h'] at hrel
      cases hrel
    | some v' =>
      rw [h'] at hrel
      cases hrel with
      | some hv => exact .inr ⟨v', b, rfl, hread hv hb, rfl⟩

/-- Entries fit as before if an alike value fits for the one before, and any does under a key that
is not known. -/
theorem Widened.fits {checkOne : String × Value → Except Mismatch Unit}
    (h : Widened known alike entries entries')
    (hknown : ∀ {name v v'}, alike name v v' → checkOne (name, v) = .ok () →
      checkOne (name, v') = .ok ())
    (hunknown : ∀ e, e.1 ∉ known → checkOne e = .ok ())
    (hfits : ∀ e ∈ entries, checkOne e = .ok ()) : ∀ e ∈ entries', checkOne e = .ok () := by
  obtain ⟨changed, extra, hperm, hchanged, hextra⟩ := h.perm
  intro e' he'
  obtain hm | hm := List.mem_append.1 (hperm.mem_iff.1 he')
  · obtain ⟨e, he, hkey, hv⟩ : ∃ e ∈ entries, e.1 = e'.1 ∧ alike e.1 e.2 e'.2 := by
      clear h hperm hfits he'
      induction hchanged with
      | nil => exact (List.not_mem_nil hm).elim
      | @cons e f es fs hef _ ih =>
        obtain rfl | hm := List.mem_cons.1 hm
        · exact ⟨e, List.mem_cons_self, hef⟩
        · obtain ⟨e, he, hee⟩ := ih hm
          exact ⟨e, List.mem_cons_of_mem _ he, hee⟩
    obtain ⟨key, v⟩ := e
    obtain ⟨key', v'⟩ := e'
    obtain rfl : key = key' := hkey
    exact hknown hv (hfits _ he)
  · exact hunknown e' (hextra e' hm)

end Widened

/-! ## What the readers make of widened tables -/

theorem GivesJob.of_widened (hjob : GivesJob entries job)
    (h : Widened jobFields (fun _ => Eq) entries entries') : GivesJob entries' job := by
  have hsame : ∀ {α : Type} {name : String} {read : Value → Except Mismatch α} {a : Option α},
      name ∈ jobFields → optional entries name read = .ok a → optional entries' name read = .ok a :=
    fun hname => h.optional hname fun hv hb => hv ▸ hb
  refine ⟨h.fits (fun hv hb => hv ▸ hb) (fun e he => ?_) hjob.fits, hsame (by decide) hjob.label,
    hsame (by decide) hjob.pattern, hjob.start.imp fun _ => .imp_left (hsame (by decide)),
    hjob.strategy.imp fun _ => .imp_left (hsame (by decide)),
    hjob.style.imp fun _ => .imp_left (hsame (by decide)), hsame (by decide) hjob.baseUrl,
    hsame (by decide) hjob.assign, hsame (by decide) hjob.docstring,
    hjob.removesRows.imp fun _ => .imp_left (hsame (by decide))⟩
  simp only [jobFields, List.mem_cons, List.not_mem_nil, or_false, not_or] at he
  simp [checkJobEntry, he]

theorem readJob_of_alike (h : JobAlike v v') (hv : readJob v = .ok job) : readJob v' = .ok job := by
  cases h with
  | same => exact hv
  | table h =>
    obtain ⟨_, _, hrecord, hjob⟩ := readJob_eq_ok_iff.1 hv
    cases hrecord
    exact readJob_eq_ok_iff.2 ⟨_, _, rfl, hjob.of_widened h⟩

theorem mapM_of_alike {β : Type} {alike : Value → Value → Prop} {read : Value → Except Mismatch β}
    (hread : ∀ v v' b, alike v v' → read v = .ok b → read v' = .ok b) {vs vs' : List Value}
    (h : List.Forall₂ alike vs vs') {bs : List β} (hvs : vs.mapM read = .ok bs) :
    vs'.mapM read = .ok bs := by
  induction h generalizing bs with
  | nil => exact hvs
  | cons hv _ ih =>
    rw [List.mapM_cons, bind_eq_ok_iff] at hvs ⊢
    obtain ⟨b, hb, hrest⟩ := hvs
    obtain ⟨cs, hcs, heq⟩ := bind_eq_ok_iff.1 hrest
    exact ⟨b, hread _ _ b hv hb, bind_eq_ok_iff.2 ⟨cs, ih hcs, heq⟩⟩

theorem readList_of_alike {β : Type} {alike : Value → Value → Prop}
    {read : Value → Except Mismatch β}
    (hread : ∀ v v' b, alike v v' → read v = .ok b → read v' = .ok b) {bs : List β}
    (h : ListAlike alike v v') (hv : (readItems v >>= fun items => items.mapM read) = .ok bs) :
    (readItems v' >>= fun items => items.mapM read) = .ok bs := by
  cases h with
  | same => exact hv
  | items hitems hitems' h =>
    rw [hitems] at hv
    rw [hitems']
    exact mapM_of_alike hread h hv

theorem readJobs_of_alike {jobs : List Job} (h : ListAlike JobAlike v v')
    (hv : readJobs v = .ok jobs) : readJobs v' = .ok jobs := by
  unfold readJobs at hv ⊢
  exact readList_of_alike @readJob_of_alike h hv

theorem GivesPreset.of_widened (hpreset : GivesPreset entries preset)
    (h : Widened ["name", "jobs"] PresetEntryAlike entries entries') :
    GivesPreset entries' preset := by
  refine ⟨h.fits ?_ (fun e he => ?_) hpreset.fits,
    h.optional (by decide) (fun hv hb => ?_) hpreset.name,
    hpreset.jobs.imp fun _ => .imp_left (h.optional (by decide) readJobs_of_alike)⟩
  · intro key v v' hv hfits
    by_cases hkey : key = "jobs"
    · subst hkey
      obtain ⟨jobs, hjobs⟩ := check_eq_ok_iff.1 hfits
      exact check_eq_ok_iff.2 ⟨jobs, readJobs_of_alike hv hjobs⟩
    · obtain rfl : v = v' := by simpa [PresetEntryAlike, hkey] using hv
      exact hfits
  · simp only [List.mem_cons, List.not_mem_nil, or_false, not_or] at he
    simp [checkPresetEntry, he]
  · exact (show _ = _ from hv) ▸ hb

theorem readPreset_of_alike (h : PresetAlike v v') (hv : readPreset v = .ok preset) :
    readPreset v' = .ok preset := by
  cases h with
  | same => exact hv
  | table h =>
    obtain ⟨_, _, hrecord, hpreset⟩ := readPreset_eq_ok_iff.1 hv
    cases hrecord
    exact readPreset_eq_ok_iff.2 ⟨_, _, rfl, hpreset.of_widened h⟩
  | @array name jobs jobs' rest h =>
    obtain ⟨_, _, hrecord, hpreset⟩ := readPreset_eq_ok_iff.1 hv
    cases hrecord
    exact readPreset_eq_ok_iff.2 ⟨_, _, rfl, hpreset.of_widened
      ⟨by simp, [("name", name), ("jobs", jobs')], [], .of_eq rfl,
        .cons ⟨rfl, rfl⟩ (.cons ⟨rfl, h⟩ .nil), fun _ he => absurd he List.not_mem_nil⟩⟩

theorem readPresets_of_alike {presets : List Preset} (h : ListAlike PresetAlike v v')
    (hv : readPresets v = .ok presets) : readPresets v' = .ok presets := by
  unfold readPresets at hv ⊢
  exact readList_of_alike @readPreset_of_alike h hv

/-- Further entries, and another order, give the same configuration. -/
theorem GivesConfig.of_widened (hconfig : GivesConfig entries config)
    (h : Widened fields EntryAlike entries entries') : GivesConfig entries' config := by
  have hsame : ∀ {α : Type} {name : String} {read : Value → Except Mismatch α} {a : Option α},
      name ∈ fields → name ≠ "presets" → optional entries name read = .ok a →
        optional entries' name read = .ok a := by
    intro _ key _ _ hmem hkey
    refine h.optional hmem fun {v v' _} hv hb => ?_
    obtain rfl : v = v' := by simpa [EntryAlike, hkey] using hv
    exact hb
  refine ⟨h.fits ?_ (fun e he => ?_) hconfig.fits,
    hsame (by decide) (by decide) hconfig.record, hsame (by decide) (by decide) hconfig.separator,
    hsame (by decide) (by decide) hconfig.rowLevels,
    hconfig.presets.imp fun _ => .imp_left (h.optional (by decide) readPresets_of_alike)⟩
  · intro key v v' hv hfits
    by_cases hkey : key = "presets"
    · subst hkey
      obtain ⟨presets, hpresets⟩ := check_eq_ok_iff.1 hfits
      exact check_eq_ok_iff.2 ⟨presets, readPresets_of_alike hv hpresets⟩
    · obtain rfl : v = v' := by simpa [EntryAlike, hkey] using hv
      exact hfits
  · simp only [fields, List.mem_cons, List.not_mem_nil, or_false, not_or] at he
    simp [checkEntry, he]

/-- Reading undoes writing: the table of a configuration gives it back. And a table that gives a
configuration gives the same one with further entries, under keys that are not known, and in any
other order, in the table itself as in the tables of the presets and of their jobs. A text gives
what its table gives. -/
theorem ofTable_toTable_widened :
    (∀ config : Config, ofTable config.toTable = .ok config) ∧
      (∀ (entries entries' : Entries) (config : Config), ofTable entries = .ok config →
        Widened fields EntryAlike entries entries' → ofTable entries' = .ok config) ∧
      ∀ (text : String) (entries : Entries) (config : Config), Toml.parse? text = some entries →
        (parse text = .ok config ↔ ofTable entries = .ok config) := by
  refine ⟨fun config => ofTable_eq_ok_iff.2 (givesConfig_toTable config),
    fun entries entries' config hconfig h => ?_, fun text entries config htext => ?_⟩
  · rw [ofTable_eq_ok_iff] at hconfig ⊢
    exact hconfig.of_widened h
  · unfold parse
    rw [htext]
    cases h : ofTable entries <;> simp [h]

set_option maxRecDepth 4000 in
/-- A text whose tables have their keys the other way round and a further one. -/
theorem ofTable_toTable_widened_note :
    let text := "presets=[\x7bjobs=[\x7bnote=7,pattern='csv'\x7d],name='p'\x7d]\nrow_levels=2\n" ++
      "separator=','\nrecord='R'\n"
    let job : Entries := [("pattern", .string "csv")]
    let job' : Entries := [("note", .integer 7), ("pattern", .string "csv")]
    let preset : Entries := [("name", .string "p"), ("jobs", .tables [job])]
    let preset' : Entries :=
      [("jobs", .array [.table .inline job']), ("name", .string "p")]
    let entries : Entries :=
      [("record", .string "R"), ("separator", .string ","), ("row_levels", .integer 2),
       ("presets", .tables [preset])]
    let entries' : Entries :=
      [("presets", .array [.table .inline preset']), ("row_levels", .integer 2),
       ("separator", .string ","), ("record", .string "R")]
    let config : Config := ⟨"R", ",", 2, [⟨"p", [{ pattern := "csv" }]⟩]⟩
    (ofTable entries = .ok config ∧ Widened fields EntryAlike entries entries' ∧
      Toml.parse? text = some entries') ∧ parse text = .ok config := by
  intro text job job' preset preset' entries entries' config
  have hjob : Widened jobFields (fun _ => Eq) job job' :=
    ⟨by decide, job, [("note", .integer 7)], .swap _ _ [], .cons ⟨rfl, rfl⟩ .nil, by decide⟩
  have hjobs : ListAlike JobAlike (.tables [job]) (.array [.table .inline job']) :=
    .items rfl rfl (.cons (.table hjob) .nil)
  have hpreset : Widened ["name", "jobs"] PresetEntryAlike preset preset' :=
    ⟨by decide, preset'.reverse, [], (List.reverse_perm _).symm,
      .cons ⟨rfl, rfl⟩ (.cons ⟨rfl, hjobs⟩ .nil), by simp⟩
  have hpresets : ListAlike PresetAlike (.tables [preset]) (.array [.table .inline preset']) :=
    .items rfl rfl (.cons (.table hpreset) .nil)
  have hentries : Widened fields EntryAlike entries entries' :=
    ⟨by decide, entries'.reverse, [], (List.reverse_perm _).symm,
      .cons ⟨rfl, rfl⟩ (.cons ⟨rfl, rfl⟩ (.cons ⟨rfl, rfl⟩ (.cons ⟨rfl, hpresets⟩ .nil))), by simp⟩
  have hconfig : ofTable entries = .ok config := rfl
  have htext : Toml.parse? text = some entries' := by decide +kernel
  obtain ⟨-, hwidened, hparse⟩ := ofTable_toTable_widened
  exact ⟨⟨hconfig, hentries, htext⟩,
    (hparse text entries' config htext).2 (hwidened entries entries' config hconfig hentries)⟩

end ReleaseListing.Config
