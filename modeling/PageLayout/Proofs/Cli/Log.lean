import PageLayout.Cli.Log
import PageLayout.Proofs.Cli.Run
import PageLayout.Proofs.Page.Acceptance

/-!
# What a run notes in its log

A run warns of a malformed element if it fails for one, and of nothing else. A verbose run also
notes the elements that become placeholders, and those only, up to the first element that is
malformed. The outcome of a run does not depend on whether it is verbose.

- `Registry.notes_eq`: the elements that are noted.
- `Invocation.target_eq_ok_iff` and `Invocation.source_eq_ok_iff`: the stages that read.
- `Invocation.run_verbose`: the outcome of a run.
- `Invocation.warnings_log`: the warnings of a run, which is all that is shown unless it is verbose.
-/

namespace PageLayout

/-- The elements that are noted are those before the first malformed one whose types are not
registered. A malformed element is of a registered type, so it is none of them. -/
theorem Registry.notes_eq (registry : Registry) (elements : List Element) :
    registry.notes elements =
      ((elements.takeWhile fun element => (registry.markup element).isOk).filter
        fun element => !registry.contains element.kind).map
          fun element => .unregistered element.id element.kind := by
  induction elements with
  | nil => rfl
  | cons element elements ih =>
    rw [notes]
    rcases hmarkup : registry.markup element with error | markup
    · -- The placeholder refuses nothing.
      have hcontains : registry.contains element.kind = true := by
        by_contra hnot
        obtain ⟨markup, hok⟩ := exists_markup_of_not_contains (Bool.eq_false_iff.2 hnot)
        rw [hmarkup] at hok
        cases hok
      simp [hcontains, hmarkup, Except.isOk, Except.toBool]
    · cases hcontains : registry.contains element.kind <;>
        simp [hcontains, hmarkup, ih, Except.isOk, Except.toBool]

theorem Registry.isWarning_of_mem_notes {registry : Registry} {elements : List Element} :
    ∀ entry ∈ registry.notes elements, entry.isWarning = false := by
  intro entry hentry
  rw [notes_eq] at hentry
  obtain ⟨element, -, rfl⟩ := List.mem_map.1 hentry
  rfl

/-- The only warning of a page that is generated or not is that it is not. -/
theorem Document.filter_isWarning_notes (document : Document) (registry : Registry)
    (format : Format) (options : Options) :
    (document.notes registry format options).filter LogEntry.isWarning =
      match document.render registry format options with
      | .ok _ => []
      | .error error => [.failed error] := by
  have hnone : (registry.notes document.elements).filter LogEntry.isWarning = [] :=
    List.filter_eq_nil_iff.2 fun entry hentry =>
      Bool.eq_false_iff.1 (Registry.isWarning_of_mem_notes entry hentry)
  rw [Document.notes.eq_def, List.filter_append]
  cases format <;> cases document.render registry _ options <;> simp [hnone, LogEntry.isWarning]

/-- A page is not exported just if it is not generated. -/
theorem Document.toExport_eq_error_iff {document : Document} {format : Format} {options : Options}
    {error : MalformedElement} :
    document.toExport format options = .error error ↔
      document.render .builtin format options = .error error := by
  rw [toExport, bind_eq_error_iff]
  simp [pure, Except.pure]

namespace Cli

variable {target : Format × Options} {source : String}

/-- If the page of a text is refused, that is the warning about the text. -/
theorem filter_isWarning_notes_of_error {document : Document} {error : MalformedElement}
    (hload : Document.load source = .ok document)
    (hpage : document.toExport target.1 target.2 = .error error) :
    (notes target source).filter LogEntry.isWarning = [.failed error] := by
  simp only [notes, hload]
  rw [List.filter_cons_of_neg (by simp [LogEntry.isWarning]), Document.filter_isWarning_notes,
    Document.toExport_eq_error_iff.1 hpage]

/-- There is no other warning about a text. -/
theorem filter_isWarning_notes_of_ok
    (hpage : ∀ document error, Document.load source = .ok document →
      document.toExport target.1 target.2 ≠ .error error) :
    (notes target source).filter LogEntry.isWarning = [] := by
  rw [notes]
  split
  · next document hload =>
    rw [List.filter_cons_of_neg (by simp [LogEntry.isWarning]), Document.filter_isWarning_notes]
    split
    · rfl
    · next error hrender =>
      exact absurd (Document.toExport_eq_error_iff.2 hrender) (hpage document error hload)
  · rfl

namespace Invocation

variable {invocation : Invocation} {files : Files} {stdin : ByteArray}

/-! ## The stages that read -/

theorem configuration_eq_ok_iff {config : Config} :
    invocation.configuration files.read = .ok config ↔ invocation.Configured files config := by
  refine ⟨fun h => ?_, configuration_of_configured⟩
  rw [configuration] at h
  split at h
  · next hconfig =>
    obtain rfl := Except.ok.inj h
    exact .default hconfig
  · next path hpath =>
    obtain ⟨source, hread, hconfig⟩ := bind_eq_ok_iff.1 h
    exact .file hpath (mapError_eq_ok_iff.1 hread) (mapError_eq_ok_iff.1 hconfig)

theorem target_eq_ok_iff {format : Format} {options : Options} :
    invocation.target files.read = .ok (format, options) ↔
      ∃ config, invocation.Configured files config ∧ invocation.Chosen config format ∧
        options = config.generator := by
  constructor
  · intro h
    obtain ⟨config, hconfig, h⟩ := bind_eq_ok_iff.1 h
    have hconfigured := configuration_eq_ok_iff.1 hconfig
    cases hword : invocation.format with
    | none =>
      simp only [hword] at h
      cases h
      exact ⟨config, hconfigured, .default hword, rfl⟩
    | some word =>
      simp only [hword] at h
      obtain ⟨format', hformat, h⟩ := bind_eq_ok_iff.1 h
      cases h
      rw [mapError_eq_ok_iff, Format.parse] at hformat
      split at hformat
      · next hname =>
        rw [Except.ok.inj hformat] at hname
        exact ⟨config, hconfigured, .named hword hname, rfl⟩
      · cases hformat
  · rintro ⟨config, hconfigured, hchosen, rfl⟩
    exact target_of_chosen hconfigured hchosen

theorem source_eq_ok_iff {source name : String} :
    invocation.source files.read (decode stdin) = .ok (source, name) ↔
      invocation.Supplied files stdin source name := by
  refine ⟨fun h => ?_, source_of_supplied⟩
  rw [Invocation.source] at h
  split at h
  · next path hpath =>
    obtain ⟨source', hread, h⟩ := bind_eq_ok_iff.1 h
    cases h
    exact .file hpath (mapError_eq_ok_iff.1 hread)
  · next hpath =>
    obtain ⟨source', hread, h⟩ := bind_eq_ok_iff.1 h
    cases h
    exact .stdin hpath (mapError_eq_ok_iff.1 hread)

/-! ## The log -/

theorem filter_isWarning_actionNotes :
    (invocation.actionNotes files stdin).filter LogEntry.isWarning = [] := by
  rw [actionNotes]
  split
  · next action _ =>
    cases action with
    | print text => rfl
    | write path content =>
      rw [Action.notes]
      split <;> rfl
  · rfl

/-- Being verbose changes nothing about a run but its log. -/
theorem run_verbose (verbose : Bool) :
    ({ invocation with verbose } : Invocation).run files stdin = invocation.run files stdin :=
  rfl

/-- The warnings of a run are those of its page, and they are always shown. -/
theorem filter_isWarning_log :
    (invocation.log files stdin).filter LogEntry.isWarning =
      (invocation.pageNotes files stdin).filter LogEntry.isWarning := by
  have hshown : ∀ entry : LogEntry,
      (entry.isWarning && (invocation.verbose || entry.isWarning)) = entry.isWarning := by
    intro entry
    cases entry.isWarning <;> simp
  simp [log, shown, hshown, filter_isWarning_actionNotes]

/-- A run warns of the malformed element that it fails for, which is the one that it reports, and of
nothing else. If it is not verbose, there is nothing but warnings in its log. -/
theorem warnings_log :
    (∀ error, invocation.Fails files stdin (.generate (.malformed error)) →
      (invocation.log files stdin).filter LogEntry.isWarning = [.failed error]) ∧
    ((∀ error, ¬ invocation.Fails files stdin (.generate (.malformed error))) →
      (invocation.log files stdin).filter LogEntry.isWarning = []) ∧
    (invocation.verbose = false → ∀ entry ∈ invocation.log files stdin, entry.isWarning) := by
  rw [filter_isWarning_log]
  refine ⟨fun error h => ?_, fun hok => ?_, fun hquiet entry hentry => ?_⟩
  · cases h with
    | malformed hprepared hload hpage =>
      rw [pageNotes, target_of_chosen hprepared.configured hprepared.chosen,
        source_of_supplied hprepared.supplied]
      exact filter_isWarning_notes_of_error hload hpage
  · rw [pageNotes]
    split
    · next target source name htarget hsource =>
      obtain ⟨format, options⟩ := target
      -- All stages that read have been passed, so that a refused page would be a failure.
      obtain ⟨config, hconfigured, hchosen, rfl⟩ := target_eq_ok_iff.1 htarget
      have hprepared : invocation.Prepared files stdin config format source name :=
        ⟨hconfigured, hchosen, source_eq_ok_iff.1 hsource⟩
      exact filter_isWarning_notes_of_ok fun document error hload hpage =>
        hok error (.malformed hprepared hload hpage)
    · rfl
  · rw [log, shown, hquiet] at hentry
    simpa using List.of_mem_filter hentry

end Invocation

end Cli

end PageLayout
