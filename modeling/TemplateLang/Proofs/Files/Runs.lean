import TemplateLang.CommandLine.Disk
import TemplateLang.Proofs.Files.Writing

/-!
# What runs do to files

A run looks at files until it has all that it will write, and writes to one file at most, as its
last step.  So a run that fails leaves all files as they were, and one that does not has
changed no file but the one that it was asked to write.
-/

namespace TemplateLang.CommandLine

open DiskAction

variable {files after : FileTree} {now : Moment} {userDirectory : Option String}

/-! ## The steps of a run and the run -/

/-- What a run gives and the files that it leaves: those of its outcome, or else those that were
there. -/
def landing (files : FileTree) :
    Except TemplateError Outcome → Except TemplateError (Status × String) × FileTree
  | .ok outcome => (.ok (outcome.status, outcome.output), outcome.files)
  | .error error => (.error error, files)

/-- Looking at the files keeps them, whatever comes of it. -/
theorem on_look_bind {α β : Type} (question : FileTree → Except TemplateError α)
    (next : α → DiskAction β) (files : FileTree) :
    (look question >>= next).on files =
      match question files with
      | .ok value => (next value).on files
      | .error error => (.error error, files) := by
  rw [on_bind, on_look]
  cases question files <;> rfl

/-- A step that looks first lands where the run does that goes on from what was found. -/
theorem landing_bind {α : Type} {question : FileTree → Except TemplateError α}
    {next : α → DiskAction (Status × String)} {next' : α → Except TemplateError Outcome}
    (lands : ∀ value, question files = .ok value →
      (next value).on files = landing files (next' value)) :
    (look question >>= next).on files = landing files (question files >>= next') := by
  rw [on_look_bind]
  cases found : question files with
  | error => rfl
  | ok value => exact lands value found

/-- A text that is written as the last step. -/
theorem landing_save (surroundings : Surroundings) (path text : String) :
    (do write path text; pure (.success, "") : DiskAction (Status × String)).on
        surroundings.files =
      landing surroundings.files (surroundings.save path text) := by
  rw [on_bind, on_write, Surroundings.save]
  cases surroundings.files.writeText path text <;> rfl

/-- The steps of a run are the run: they give what it gives and leave the files that it leaves,
and those that were there if it fails. -/
theorem steps_on (request : Request) (surroundings : Surroundings) :
    (request.steps surroundings.now surroundings.userDirectory).on surroundings.files =
      landing surroundings.files (surroundings.run request) := by
  apply landing_bind
  intro config _
  cases request.command with
  | render input output variableFile settings =>
    apply landing_bind
    intro source _
    apply landing_bind
    intro bindings _
    apply landing_bind
    intro text _
    cases output with
    | none => rfl
    | some path => exact landing_save surroundings path text
  | format input checks writes =>
    apply landing_bind
    intro source _
    apply landing_bind
    intro formatted _
    cases checks with
    | true => rfl
    | false =>
      cases writes with
      | false => rfl
      | true =>
        by_cases isFormatted : formatted = source
        · simp only [isFormatted, if_true]
          rfl
        · simp only [isFormatted, if_false]
          exact landing_save surroundings input formatted
  | tokens input =>
    apply landing_bind
    intro source _
    apply landing_bind
    intro tokens _
    rfl

/-! ## What a request may change -/

/-- A template was read from a file and parsed, and this is its canonical form. -/
def Formatted (files : FileTree) (userDirectory : Option String) (request : Request)
    (input source text : String) : Prop :=
  ∃ config template, loadConfig files userDirectory request.config = .ok config ∧
    files.readText input = .ok source ∧ parse config.tags source.toList = .ok template ∧
    text = template.print

/-- A template was read from a file, parsed and evaluated to its end, and this is its output. -/
def Rendered (files : FileTree) (now : Moment) (userDirectory : Option String)
    (request : Request) (input : String) (variableFile : Option String)
    (settings : List (String × String)) (text : String) : Prop :=
  ∃ config source bindings template,
    loadConfig files userDirectory request.config = .ok config ∧
    files.readText input = .ok source ∧
    collectVariables files variableFile settings = .ok bindings ∧
    parse config.tags source.toList = .ok template ∧
    (((config.context files.herePath).extend ⟨none, none, bindings, []⟩).render ⟨files, now⟩
      template).1 = .ok text

/-- The files that a request may leave.  A template may be replaced by its canonical form where
it has another one, and the output of a template may be written; else all files are kept. -/
def Request.Permits (request : Request) (now : Moment) (userDirectory : Option String)
    (files after : FileTree) : Prop :=
  match request.command with
  | .tokens _ => after = files
  | .format input checks writes =>
    after = files ∨ checks = false ∧ writes = true ∧ ∃ source text,
      Formatted files userDirectory request input source text ∧ text ≠ source ∧
        files.Written input text after
  | .render input output variableFile settings =>
    after = files ∨ ∃ path text, output = some path ∧
      Rendered files now userDirectory request input variableFile settings text ∧
        files.Written path text after

/-- Errors that are told in other words are errors all the same. -/
theorem mapError_eq_ok {ε ε' α : Type} {retell : ε → ε'} {result : Except ε α} {value : α} :
    result.mapError retell = .ok value ↔ result = .ok value := by
  cases result with
  | error error => exact iff_of_false nofun nofun
  | ok other =>
    change (Except.ok other : Except ε' α) = .ok value ↔ _
    rw [Except.ok.injEq, Except.ok.injEq]

theorem parse_of_readTemplate {tags : Delimiters} {source : String} {template : Template}
    (isRead : readTemplate tags source = .ok template) :
    parse tags source.toList = .ok template := by
  rw [readTemplate] at isRead
  split at isRead
  · rename_i isParsed
    cases isRead
    exact isParsed
  · exact nomatch isRead

/-- What is saved has its file written and nothing else. -/
theorem written_of_save {surroundings : Surroundings} {path text : String} {outcome : Outcome}
    (isSaved : surroundings.save path text = .ok outcome) :
    surroundings.files.Written path text outcome.files := by
  rw [Surroundings.save, Reading.bind_eq_ok] at isSaved
  rcases isSaved with ⟨after, isWritten, isOutcome⟩
  cases isOutcome
  exact FileTree.written_of_writeText (mapError_eq_ok.mp isWritten)

theorem permits_of_render {surroundings : Surroundings} {request : Request} {config : Config}
    {input : String} {output variableFile : Option String} {settings : List (String × String)}
    {outcome : Outcome}
    (isConfig : loadConfig surroundings.files surroundings.userDirectory request.config =
      .ok config)
    (isAsked : request.command = .render input output variableFile settings)
    (ended : surroundings.render config input output variableFile settings = .ok outcome) :
    request.Permits surroundings.now surroundings.userDirectory surroundings.files
      outcome.files := by
  rw [Surroundings.render, Reading.bind_eq_ok] at ended
  rcases ended with ⟨source, isSource, ended⟩
  rw [Reading.bind_eq_ok] at ended
  rcases ended with ⟨bindings, areBindings, ended⟩
  rw [Reading.bind_eq_ok] at ended
  rcases ended with ⟨text, isText, ended⟩
  rw [Request.Permits, isAsked]
  cases output with
  | none =>
    cases ended
    exact .inl rfl
  | some path =>
    rw [Config.renderWith, Reading.bind_eq_ok] at isText
    rcases isText with ⟨template, isRead, isText⟩
    have isRendered : Rendered surroundings.files surroundings.now surroundings.userDirectory
        request input variableFile settings text :=
      ⟨config, source, bindings, template, isConfig, mapError_eq_ok.mp isSource, areBindings,
        parse_of_readTemplate isRead, mapError_eq_ok.mp isText⟩
    exact .inr ⟨path, text, rfl, isRendered, written_of_save ended⟩

/-- What comes of writing a template in its canonical form: it was parsed, and its file is
rewritten if that was asked for and makes a difference. -/
theorem format_eq_ok {surroundings : Surroundings} {config : Config} {input : String}
    {checks writes : Bool} {outcome : Outcome}
    (ended : surroundings.format config input checks writes = .ok outcome) :
    ∃ source template, surroundings.files.readText input = .ok source ∧
      parse config.tags source.toList = .ok template ∧
      (checks = false ∧ writes = true ∧ template.print ≠ source ∧
          surroundings.files.Written input template.print outcome.files ∨
        (checks = false → writes = true → template.print = source) ∧
          outcome.files = surroundings.files) := by
  rw [Surroundings.format, Reading.bind_eq_ok] at ended
  rcases ended with ⟨source, isSource, ended⟩
  rw [Reading.bind_eq_ok] at ended
  rcases ended with ⟨formatted, isFormatted, ended⟩
  rw [Config.formatSource, Reading.bind_eq_ok] at isFormatted
  rcases isFormatted with ⟨template, isRead, isFormatted⟩
  cases isFormatted
  refine ⟨source, template, mapError_eq_ok.mp isSource, parse_of_readTemplate isRead, ?_⟩
  cases checks with
  | true =>
    cases ended
    exact .inr ⟨nofun, rfl⟩
  | false =>
    cases writes with
    | false =>
      cases ended
      exact .inr ⟨nofun, rfl⟩
    | true =>
      by_cases isCanonical : template.print = source
      · simp only [isCanonical, if_true] at ended
        cases ended
        exact .inr ⟨fun _ _ => isCanonical, rfl⟩
      · simp only [isCanonical, if_false] at ended
        exact .inl ⟨rfl, rfl, isCanonical, written_of_save ended⟩

theorem permits_of_format {surroundings : Surroundings} {request : Request} {config : Config}
    {input : String} {checks writes : Bool} {outcome : Outcome}
    (isConfig : loadConfig surroundings.files surroundings.userDirectory request.config =
      .ok config)
    (isAsked : request.command = .format input checks writes)
    (ended : surroundings.format config input checks writes = .ok outcome) :
    request.Permits surroundings.now surroundings.userDirectory surroundings.files
      outcome.files := by
  rw [Request.Permits, isAsked]
  rcases format_eq_ok ended with ⟨source, template, isSource, isParsed,
    ⟨noCheck, isWrite, differs, isWritten⟩ | ⟨_, isKept⟩⟩
  · exact .inr ⟨noCheck, isWrite, source, template.print,
      ⟨config, template, isConfig, isSource, isParsed, rfl⟩, differs, isWritten⟩
  · exact .inl isKept

/-- A run leaves what its request permits. -/
theorem permits_of_run {surroundings : Surroundings} {request : Request} {outcome : Outcome}
    (ended : surroundings.run request = .ok outcome) :
    request.Permits surroundings.now surroundings.userDirectory surroundings.files
      outcome.files := by
  rw [Surroundings.run, Reading.bind_eq_ok] at ended
  rcases ended with ⟨config, isConfig, ended⟩
  cases isAsked : request.command with
  | render =>
    simp only [isAsked] at ended
    exact permits_of_render isConfig isAsked ended
  | format =>
    simp only [isAsked] at ended
    exact permits_of_format isConfig isAsked ended
  | tokens input =>
    simp only [isAsked] at ended
    rw [Surroundings.tokens, Reading.bind_eq_ok] at ended
    rcases ended with ⟨source, _, ended⟩
    rw [Reading.bind_eq_ok] at ended
    rcases ended with ⟨tokens, _, ended⟩
    cases ended
    rw [Request.Permits, isAsked]
    rfl

/-- To keep all files is always permitted. -/
theorem permits_self (request : Request) (now : Moment) (userDirectory : Option String)
    (files : FileTree) : request.Permits now userDirectory files files := by
  rw [Request.Permits]
  cases request.command with
  | render => exact .inl rfl
  | format => exact .inl rfl
  | tokens => rfl

/-! ## Command lines -/

/-- A template that is rewritten where needed is in its canonical form afterwards. -/
theorem readText_of_format {surroundings : Surroundings} {config : Config} {input : String}
    {outcome : Outcome} (ended : surroundings.format config input false true = .ok outcome) :
    ∃ source template, surroundings.files.readText input = .ok source ∧
      parse config.tags source.toList = .ok template ∧
      outcome.files.readText input = .ok template.print := by
  rcases format_eq_ok ended with ⟨source, template, isSource, isParsed,
    ⟨_, _, _, isWritten⟩ | ⟨isCanonical, isKept⟩⟩
  · exact ⟨source, template, isSource, isParsed, isWritten.readBack⟩
  · refine ⟨source, template, isSource, isParsed, ?_⟩
    rw [isKept, isCanonical rfl rfl]
    exact isSource

/-- What a command line comes to that asks for a run. -/
theorem follow_eq {words : List String} {request : Request}
    (asks : Request.ofWords words = .ok request) (surroundings : Surroundings) :
    follow surroundings.now surroundings.userDirectory words surroundings.files =
      match surroundings.run request with
      | .ok outcome => (.done outcome.status outcome.output, outcome.files)
      | .error error => (.failed error, surroundings.files) := by
  rw [follow, asks]
  simp only [steps_on]
  cases surroundings.run request <;> rfl

/-- No command line damages files.  One that is refused and a run that fails leave all files as
they were, and so does a run that lists tokens or writes a template to the output.  A run that
rewrites a template changes at most the file of that template, which was parsed, into its
canonical form where that is another text.  A run that renders a template changes at most the
file it was given for the output, after the template was parsed and evaluated to its end. -/
theorem follow_spares_files (now : Moment) (userDirectory : Option String)
    (words : List String) (files : FileTree) :
    ∃ ending after, follow now userDirectory words files = (ending, after) ∧
      (∀ error, ending = .misused error → after = files) ∧
      (∀ error, ending = .failed error → after = files) ∧
      ∀ request, Request.ofWords words = .ok request →
        request.Permits now userDirectory files after ∧
        (∀ input status output, request.command = .format input false true →
          ending = .done status output → ∃ source text,
            Formatted files userDirectory request input source text ∧
              after.readText input = .ok text) ∧
        ((∃ outcome, Surroundings.run ⟨files, now, userDirectory⟩ request = .ok outcome ∧
            ending = .done outcome.status outcome.output ∧ after = outcome.files) ∨
          ∃ error, Surroundings.run ⟨files, now, userDirectory⟩ request = .error error ∧
            ending = .failed error) := by
  cases asks : Request.ofWords words with
  | error error =>
    have ends : follow now userDirectory words files = (.misused error, files) := by
      rw [follow, asks]
    exact ⟨_, _, ends, fun _ _ => rfl, fun _ _ => rfl, nofun⟩
  | ok request =>
    have ends := follow_eq asks ⟨files, now, userDirectory⟩
    cases ran : Surroundings.run ⟨files, now, userDirectory⟩ request with
    | error error =>
      rw [ran] at ends
      refine ⟨_, _, ends, fun _ _ => rfl, fun _ _ => rfl, ?_⟩
      rintro _ ⟨⟩
      exact ⟨permits_self request now userDirectory files, nofun, .inr ⟨error, ran, rfl⟩⟩
    | ok outcome =>
      rw [ran] at ends
      refine ⟨_, _, ends, nofun, nofun, ?_⟩
      rintro _ ⟨⟩
      refine ⟨permits_of_run ran, ?_, .inl ⟨outcome, ran, rfl, rfl⟩⟩
      rintro input status output isFormat -
      have ended := ran
      rw [Surroundings.run, Reading.bind_eq_ok] at ended
      rcases ended with ⟨config, isConfig, ended⟩
      simp only [isFormat] at ended
      rcases readText_of_format ended with ⟨source, template, isSource, isParsed, isCanonical⟩
      exact ⟨source, template.print, ⟨config, template, isConfig, isSource, isParsed, rfl⟩,
        isCanonical⟩

example :
    let files : FileTree := ⟨["home"], [(["home", "page"], "\x7b\x7bx\x7d\x7d".toUTF8)], []⟩
    let after := (follow ⟨0, 0, 0⟩ none ["fmt", "-w", "page"] files).2
    (after.readText "page").toOption = some "\x7b\x7b x \x7d\x7d" := by
  decide +kernel

end TemplateLang.CommandLine
