import PageLayout.Cli.Run
import PageLayout.Proofs.Cli.Files

/-!
# What a run does

A run goes through its stages in a fixed order: the configuration, the format, the document and its
page, and at last what becomes of the page. The first stage that fails is reported, and nothing has
been printed or written by then, whichever files the names lead to. If none fails, what comes out is
the page that the library makes of the same texts.

- `Invocation.Fails`: the first stage of a run that fails.
- `Invocation.Produces`: the page of a run that has one.
- `Invocation.Delivers`: what becomes of the page.
- `run_ofArguments`: failures change nothing, and all other runs deliver their page.
-/

namespace PageLayout.Cli

namespace Invocation

/-! ## The stages of a run -/

section Stages

variable (invocation : Invocation) (files : Files) (stdin : ByteArray)

/-- The configuration of a run: that of the file that is named, or the default one. -/
inductive Configured : Config → Prop
  | default (hconfig : invocation.config = none) : Configured {}
  | file {path source : String} {config : Config} (hpath : invocation.config = some path)
      (hread : files.read path = .ok source) (hconfig : Config.ofToml source = .ok config) :
      Configured config

/-- The format of a run: the one that is named, or that of the configuration. -/
inductive Chosen (config : Config) : Format → Prop
  | default (hformat : invocation.format = none) : Chosen config config.defaultFormat
  | named {word : String} {format : Format} (hword : invocation.format = some word)
      (hformat : Format.ofName? word = some format) : Chosen config format

/-- The text of the document of a run and its name in reports: that of the file that is named, or
standard input. -/
inductive Supplied : String → String → Prop
  | file {path source : String} (hpath : invocation.input = some path)
      (hread : files.read path = .ok source) : Supplied source path
  | stdin {source : String} (hpath : invocation.input = none)
      (hread : decode stdin = .ok source) : Supplied source stdinName

/-- What has come of the stages that read: the configuration, the format, and the document's text
with its name. -/
structure Prepared (config : Config) (format : Format) (source name : String) : Prop where
  configured : invocation.Configured files config
  chosen : invocation.Chosen config format
  supplied : invocation.Supplied files stdin source name

/-- The page of a run: what the library makes of the text of the document, in the format of the run
and with the options of its configuration. -/
inductive Produces : Export → Prop
  | page {config : Config} {format : Format} {source name : String} {document : Document}
      {page : Export} (hprepared : invocation.Prepared files stdin config format source name)
      (hload : Document.load source = .ok document)
      (hpage : document.toExport format config.generator = .ok page) : Produces page

/-- The first stage of a run that fails. Whoever fails at a stage has passed all stages before
it. -/
inductive Fails : RunError → Prop
  /-- The configuration file cannot be read. -/
  | configFile {path : String} {error : FileError} (hpath : invocation.config = some path)
      (hread : files.read path = .error error) : Fails (.configFile path error)
  /-- The configuration file is refused. -/
  | config {path source : String} {failure : Toml.Failure} (hpath : invocation.config = some path)
      (hread : files.read path = .ok source) (hconfig : Config.ofToml source = .error failure) :
      Fails (.config path source failure)
  /-- The format that is named is unknown. -/
  | format {config : Config} {word : String} (hconfigured : invocation.Configured files config)
      (hword : invocation.format = some word) (hformat : Format.ofName? word = none) :
      Fails (.generate (.unsupportedFormat word))
  /-- The file of the document cannot be read. -/
  | inputFile {config : Config} {format : Format} {path : String} {error : FileError}
      (hconfigured : invocation.Configured files config) (hchosen : invocation.Chosen config format)
      (hpath : invocation.input = some path) (hread : files.read path = .error error) :
      Fails (.inputFile path error)
  /-- Standard input cannot be read. -/
  | stdin {config : Config} {format : Format} {error : FileError}
      (hconfigured : invocation.Configured files config) (hchosen : invocation.Chosen config format)
      (hpath : invocation.input = none) (hread : decode stdin = .error error) :
      Fails (.stdin error)
  /-- The text is no document. -/
  | load {config : Config} {format : Format} {source name : String} {error : LoadError}
      (hprepared : invocation.Prepared files stdin config format source name)
      (hload : Document.load source = .error error) : Fails (.load source name error)
  /-- The document has a malformed element. -/
  | malformed {config : Config} {format : Format} {source name : String} {document : Document}
      {error : MalformedElement}
      (hprepared : invocation.Prepared files stdin config format source name)
      (hload : Document.load source = .ok document)
      (hpage : document.toExport format config.generator = .error error) :
      Fails (.generate (.malformed error))
  /-- The page is to be written and cannot be. -/
  | outputFile {page : Export} {path : String} {error : FileError}
      (hpage : invocation.Produces files stdin page) (hprint : invocation.printFilename = false)
      (hpath : invocation.out = some path)
      (hwrite : files.write path page.content = .error error) : Fails (.outputFile path error)

/-- What becomes of a page. Only one that is written changes files: the one to whose place the name
leads, and under that name the page is found. -/
inductive Delivers (page : Export) : Outcome → Prop
  | filename (hprint : invocation.printFilename = true) :
      Delivers page ⟨0, page.filename ++ "\n", "", files⟩
  | file {path : String} {location : Location} {after : Files}
      (hprint : invocation.printFilename = false) (hpath : invocation.out = some path)
      (htarget : files.target path = .ok location)
      (hafter : files.Overwrites location page.content after)
      (hread : after.read path = .ok page.content) : Delivers page ⟨0, "", "", after⟩
  | stdout (hprint : invocation.printFilename = false) (hpath : invocation.out = none) :
      Delivers page ⟨0, page.content, "", files⟩

end Stages

variable {invocation : Invocation} {files : Files} {stdin : ByteArray} {config : Config}
  {format : Format} {source name : String}

/-! ## Runs that fail -/

theorem configuration_of_configured (h : invocation.Configured files config) :
    invocation.configuration files.read = .ok config := by
  rw [configuration]
  cases h with
  | default hconfig => rw [hconfig]
  | file hpath hread hconfig =>
    rw [hpath]
    exact bind_eq_ok_iff.2 ⟨_, mapError_eq_ok_iff.2 hread, mapError_eq_ok_iff.2 hconfig⟩

theorem target_of_chosen (h : invocation.Configured files config)
    (hchosen : invocation.Chosen config format) :
    invocation.target files.read = .ok (format, config.generator) := by
  rw [target, bind_eq_ok_iff]
  refine ⟨config, configuration_of_configured h, ?_⟩
  cases hchosen with
  | default hformat => rw [hformat]; rfl
  | named hword hformat => simp only [hword, Format.parse, hformat]; rfl

theorem source_of_supplied (h : invocation.Supplied files stdin source name) :
    invocation.source files.read (decode stdin) = .ok (source, name) := by
  rw [Invocation.source]
  cases h with
  | file hpath hread =>
    rw [hpath]
    exact bind_eq_ok_iff.2 ⟨_, mapError_eq_ok_iff.2 hread, rfl⟩
  | stdin hpath hread =>
    rw [hpath]
    exact bind_eq_ok_iff.2 ⟨_, mapError_eq_ok_iff.2 hread, rfl⟩

theorem plan_of_prepared (h : invocation.Prepared files stdin config format source name) :
    invocation.plan files.read (decode stdin) =
      invocation.action (format, config.generator) source name := by
  rw [plan, target_of_chosen h.configured h.chosen]
  show (invocation.source files.read (decode stdin) >>= _) = _
  rw [source_of_supplied h.supplied]
  rfl

/-- What is left to do when there is a page. -/
def delivery (invocation : Invocation) (page : Export) : Action :=
  if invocation.printFilename then .print (page.filename ++ "\n")
  else match invocation.out with
    | some path => .write path page.content
    | none => .print page.content

theorem plan_of_produces {page : Export} (h : invocation.Produces files stdin page) :
    invocation.plan files.read (decode stdin) = .ok (invocation.delivery page) := by
  cases h with
  | page hprepared hload hpage =>
    rw [plan_of_prepared hprepared, action, bind_eq_ok_iff]
    refine ⟨_, mapError_eq_ok_iff.2 hload, bind_eq_ok_iff.2 ⟨page, mapError_eq_ok_iff.2 hpage, ?_⟩⟩
    rw [delivery]
    cases invocation.printFilename with
    | true => rfl
    | false => cases invocation.out <;> rfl

/-- A run that fails at a stage is over then, with a report and without any change. -/
theorem run_of_fails {error : RunError} (h : invocation.Fails files stdin error) :
    invocation.run files stdin = .failure files error := by
  -- Only the last stage is no part of the plan.
  have hplan : invocation.plan files.read (decode stdin) = .error error →
      invocation.run files stdin = .failure files error := by
    intro h
    rw [run, h]
  -- The configuration and the format come before the document.
  have hread : ∀ {error}, invocation.target files.read = .error error →
      invocation.plan files.read (decode stdin) = .error error :=
    fun h => bind_eq_error_iff.2 (.inl h)
  cases h with
  | configFile hpath hfile =>
    refine hplan (hread (bind_eq_error_iff.2 (.inl ?_)))
    rw [configuration, hpath]
    exact bind_eq_error_iff.2 (.inl (mapError_eq_error_iff.2 ⟨_, hfile, rfl⟩))
  | config hpath hfile hconfig =>
    refine hplan (hread (bind_eq_error_iff.2 (.inl ?_)))
    rw [configuration, hpath]
    exact bind_eq_error_iff.2 (.inr ⟨_, mapError_eq_ok_iff.2 hfile,
      mapError_eq_error_iff.2 ⟨_, hconfig, rfl⟩⟩)
  | format hconfigured hword hformat =>
    have hconfiguration := configuration_of_configured hconfigured
    refine hplan (hread (bind_eq_error_iff.2 (.inr ⟨_, hconfiguration, ?_⟩)))
    simp only [hword, Format.parse, hformat]
    rfl
  | inputFile hconfigured hchosen hpath hfile =>
    refine hplan (bind_eq_error_iff.2 (.inr ⟨_, target_of_chosen hconfigured hchosen, ?_⟩))
    rw [Invocation.source, hpath]
    exact bind_eq_error_iff.2 (.inl (bind_eq_error_iff.2
      (.inl (mapError_eq_error_iff.2 ⟨_, hfile, rfl⟩))))
  | stdin hconfigured hchosen hpath hbytes =>
    refine hplan (bind_eq_error_iff.2 (.inr ⟨_, target_of_chosen hconfigured hchosen, ?_⟩))
    rw [Invocation.source, hpath]
    exact bind_eq_error_iff.2 (.inl (bind_eq_error_iff.2
      (.inl (mapError_eq_error_iff.2 ⟨_, hbytes, rfl⟩))))
  | load hprepared hload =>
    refine hplan ?_
    rw [plan_of_prepared hprepared]
    exact bind_eq_error_iff.2 (.inl (mapError_eq_error_iff.2 ⟨_, hload, rfl⟩))
  | malformed hprepared hload hpage =>
    refine hplan ?_
    rw [plan_of_prepared hprepared]
    exact bind_eq_error_iff.2 (.inr ⟨_, mapError_eq_ok_iff.2 hload,
      bind_eq_error_iff.2 (.inl (mapError_eq_error_iff.2 ⟨_, hpage, rfl⟩))⟩)
  | outputFile hpage hprint hpath hwrite =>
    rw [run, plan_of_produces hpage, delivery, hprint, hpath]
    show Outcome.ofAction files (.write _ _) = _
    rw [Outcome.ofAction, hwrite]

/-! ## Runs that do not -/

section Completed

variable (hok : ∀ error, ¬ invocation.Fails files stdin error)
include hok

theorem exists_configured : ∃ config, invocation.Configured files config := by
  cases hpath : invocation.config with
  | none => exact ⟨{}, .default hpath⟩
  | some path =>
    cases hread : files.read path with
    | error error => exact absurd (.configFile hpath hread) (hok _)
    | ok source =>
      cases hconfig : Config.ofToml source with
      | error failure => exact absurd (.config hpath hread hconfig) (hok _)
      | ok config => exact ⟨config, .file hpath hread hconfig⟩

theorem exists_chosen (hconfigured : invocation.Configured files config) :
    ∃ format, invocation.Chosen config format := by
  cases hword : invocation.format with
  | none => exact ⟨config.defaultFormat, .default hword⟩
  | some word =>
    cases hformat : Format.ofName? word with
    | none => exact absurd (.format hconfigured hword hformat) (hok _)
    | some format => exact ⟨format, .named hword hformat⟩

theorem exists_supplied (hconfigured : invocation.Configured files config)
    (hchosen : invocation.Chosen config format) :
    ∃ source name, invocation.Supplied files stdin source name := by
  cases hpath : invocation.input with
  | none =>
    cases hread : decode stdin with
    | error error => exact absurd (.stdin hconfigured hchosen hpath hread) (hok _)
    | ok source => exact ⟨source, stdinName, .stdin hpath hread⟩
  | some path =>
    cases hread : files.read path with
    | error error => exact absurd (.inputFile hconfigured hchosen hpath hread) (hok _)
    | ok source => exact ⟨source, path, .file hpath hread⟩

theorem exists_produces : ∃ page, invocation.Produces files stdin page := by
  obtain ⟨config, hconfigured⟩ := exists_configured hok
  obtain ⟨format, hchosen⟩ := exists_chosen hok hconfigured
  obtain ⟨source, name, hsupplied⟩ := exists_supplied hok hconfigured hchosen
  have hprepared : invocation.Prepared files stdin config format source name :=
    ⟨hconfigured, hchosen, hsupplied⟩
  cases hload : Document.load source with
  | error error => exact absurd (.load hprepared hload) (hok _)
  | ok document =>
    cases hpage : document.toExport format config.generator with
    | error error => exact absurd (.malformed hprepared hload hpage) (hok _)
    | ok page => exact ⟨page, .page hprepared hload hpage⟩

/-- A page that is not kept from being written is delivered. -/
theorem delivers_run {page : Export} (hpage : invocation.Produces files stdin page) :
    invocation.Delivers files page (invocation.run files stdin) := by
  rw [run, plan_of_produces hpage, delivery]
  cases hprint : invocation.printFilename with
  | true => exact .filename hprint
  | false =>
    cases hpath : invocation.out with
    | none => exact .stdout hprint hpath
    | some path =>
      show invocation.Delivers files page (Outcome.ofAction files (.write path page.content))
      rw [Outcome.ofAction]
      cases hwrite : files.write path page.content with
      | error error => exact absurd (.outputFile hpage hprint hpath hwrite) (hok _)
      | ok after =>
        obtain ⟨location, htarget, hafter⟩ := Files.overwrites_of_write hwrite
        exact .file hprint hpath htarget hafter (Files.read_of_write hwrite)

end Completed

end Invocation

/-- A command line that is understood is decided by the first of its stages that fails: the run is
reported as failed, prints nothing and leaves all files as they were. If no stage fails, the run
delivers the page that the library makes of the same texts, as it was asked to. The log, which
shares standard error with the report, is apart from this. -/
theorem run_ofArguments {arguments : List String} {invocation : Invocation}
    (harguments : Invocation.ofArguments arguments = .ok invocation) (files : Files)
    (stdin : ByteArray) :
    (∀ error, invocation.Fails files stdin error →
      run arguments files stdin = ⟨1, "", error.message ++ "\n", files⟩) ∧
    ((∀ error, ¬ invocation.Fails files stdin error) →
      ∃ page, invocation.Produces files stdin page ∧
        invocation.Delivers files page (run arguments files stdin)) := by
  rw [run, harguments]
  refine ⟨fun error h => Invocation.run_of_fails h, fun hok => ?_⟩
  obtain ⟨page, hpage⟩ := Invocation.exists_produces hok
  exact ⟨page, hpage, Invocation.delivers_run hok hpage⟩

/-- The format is unknown and the document is not there: the format is what is reported, and the
file to which the page should go keeps its content. -/
theorem run_unsupportedFormat :
    run ["-o", "page.html", "--format=pdf", "missing.json"] (.ofNamed [("page.html", "old")]) "" =
      ⟨1, "", "Error: unsupported format: pdf\n", .ofNamed [("page.html", "old")]⟩ := by
  have harguments : Invocation.ofArguments ["-o", "page.html", "--format=pdf", "missing.json"] =
      .ok { out := "page.html", format := "pdf", input := "missing.json" } := by
    decide +kernel
  exact (run_ofArguments harguments _ _).1 (.generate (.unsupportedFormat "pdf"))
    (.format (.default rfl) rfl (by decide))

end PageLayout.Cli
