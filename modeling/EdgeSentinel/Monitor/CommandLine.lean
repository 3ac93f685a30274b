import EdgeSentinel.Monitor.ProcessRound

/-!
# The command line

`main` goes through its arguments in one loop: `-c` and `--output` take the argument behind them,
whatever it is, and everything else is refused.

## The model

* `parseArguments` — the loop, with the path and the format that it has so far.
* `CommandOption` — an option with its value; `words` is how it is written.
* `Refused` — what the rest of a command line looks like where the loop gives up.

## What is proved

* `parseArguments_iff` — **a command line** is accepted exactly if it is a list of options, of which
  the last of each kind counts; otherwise the first thing that is none is reported.
-/

namespace EdgeSentinel.Monitor

open CLib

/-! ### The loop -/

/-- `output_parse_format`. -/
def outputParseFormat (text : Bytes) : Option OutputFormat :=
  if text = ascii "text" then some .text
  else if text = ascii "json" then some .json
  else none

/-- `output_format_to_string`. -/
def outputFormatToString : OutputFormat → Bytes
  | .text => ascii "text"
  | .json => ascii "json"

/-- Why `main` returns 1 in its loop over the arguments. -/
inductive ArgumentError where
  /-- `Missing configuration file after -c.` -/
  | missingFile
  /-- `Missing format after --output.` -/
  | missingFormat
  /-- `Invalid output format`. -/
  | invalidFormat (text : Bytes)
  /-- `Unknown argument`. -/
  | unknownArgument (argument : Bytes)
  deriving DecidableEq, Repr

/-- The loop over the arguments behind `argv[0]`. -/
def parseArguments : List Bytes → Bytes → OutputFormat → Except ArgumentError (Bytes × OutputFormat)
  | [], configFile, format => .ok (configFile, format)
  | argument :: arguments, configFile, format =>
    if argument = ascii "-c" then
      match arguments with
      | [] => .error .missingFile
      | file :: arguments => parseArguments arguments file format
    else if argument = ascii "--output" then
      match arguments with
      | [] => .error .missingFormat
      | text :: arguments =>
        match outputParseFormat text with
        | some format => parseArguments arguments configFile format
        | none => .error (.invalidFormat text)
    else .error (.unknownArgument argument)

/-- `DEFAULT_CONFIG_FILE`. -/
def defaultConfigFile : Bytes := ascii "config/edgesentinel.conf"

/-! ### Options -/

/-- An option with its value. -/
inductive CommandOption where
  /-- `-c`. -/
  | file (path : Bytes)
  /-- `--output`. -/
  | format (format : OutputFormat)
  deriving DecidableEq, Repr

namespace CommandOption

/-- How an option is written. -/
def words : CommandOption → List Bytes
  | file path => [ascii "-c", path]
  | format f => [ascii "--output", outputFormatToString f]

/-- The path of a configuration file. -/
def file? : CommandOption → Option Bytes
  | file path => some path
  | format _ => none

/-- The output format. -/
def format? : CommandOption → Option OutputFormat
  | file _ => none
  | format f => some f

end CommandOption

/-- The rest of a command line where the loop gives up, and why. -/
inductive Refused : List Bytes → ArgumentError → Prop where
  /-- `-c` is the last argument. -/
  | missingFile : Refused [ascii "-c"] .missingFile
  /-- `--output` is. -/
  | missingFormat : Refused [ascii "--output"] .missingFormat
  /-- There is no such format. -/
  | invalidFormat (text : Bytes) (rest : List Bytes) (htext : text ≠ ascii "text")
    (hjson : text ≠ ascii "json") : Refused (ascii "--output" :: text :: rest) (.invalidFormat text)
  /-- There is no such option. -/
  | unknownArgument (argument : Bytes) (rest : List Bytes) (hfile : argument ≠ ascii "-c")
    (hformat : argument ≠ ascii "--output") :
    Refused (argument :: rest) (.unknownArgument argument)

/-! ### What the loop does -/

variable {arguments : List Bytes} {configFile path : Bytes} {format f : OutputFormat}

/-- The formats are those that are written like this. -/
theorem outputParseFormat_eq_some_iff {text : Bytes} :
    outputParseFormat text = some f ↔ text = outputFormatToString f := by
  unfold outputParseFormat
  constructor
  · intro h
    split_ifs at h with htext hjson
    · obtain rfl := Option.some.inj h
      exact htext
    · obtain rfl := Option.some.inj h
      exact hjson
  · rintro rfl
    cases f <;> rfl

theorem outputParseFormat_eq_none_iff {text : Bytes} :
    outputParseFormat text = none ↔ text ≠ ascii "text" ∧ text ≠ ascii "json" := by
  unfold outputParseFormat
  split_ifs with htext hjson
  · simp [htext]
  · simp [hjson]
  · simp [htext, hjson]

theorem parseArguments_file (path : Bytes) (rest : List Bytes) (configFile : Bytes)
    (format : OutputFormat) :
    parseArguments (ascii "-c" :: path :: rest) configFile format =
      parseArguments rest path format := rfl

theorem parseArguments_format {text : Bytes} (h : outputParseFormat text = some f)
    (rest : List Bytes) (configFile : Bytes) (format : OutputFormat) :
    parseArguments (ascii "--output" :: text :: rest) configFile format =
      parseArguments rest configFile f := by
  rw [parseArguments.eq_def]
  dsimp only
  rw [if_neg (by decide), if_pos rfl, h]

/-- What the loop makes of the options in front. -/
theorem parseArguments_words (options : List CommandOption) (arguments : List Bytes)
    (configFile : Bytes) (format : OutputFormat) :
    parseArguments (options.flatMap CommandOption.words ++ arguments) configFile format =
      parseArguments arguments ((options.filterMap CommandOption.file?).getLastD configFile)
        ((options.filterMap CommandOption.format?).getLastD format) := by
  induction options generalizing configFile format with
  | nil => rfl
  | cons option options ih =>
    rw [List.flatMap_cons, List.append_assoc]
    cases option with
    | file path =>
      have hfile : (CommandOption.file path :: options).filterMap CommandOption.file? =
          path :: options.filterMap CommandOption.file? := rfl
      have hformat : (CommandOption.file path :: options).filterMap CommandOption.format? =
          options.filterMap CommandOption.format? := rfl
      rw [hfile, hformat, List.getLastD_cons, ← ih]
      exact parseArguments_file path _ configFile format
    | format f =>
      have hfile : (CommandOption.format f :: options).filterMap CommandOption.file? =
          options.filterMap CommandOption.file? := rfl
      have hformat : (CommandOption.format f :: options).filterMap CommandOption.format? =
          f :: options.filterMap CommandOption.format? := rfl
      rw [hfile, hformat, List.getLastD_cons, ← ih]
      exact parseArguments_format (outputParseFormat_eq_some_iff.mpr rfl) _ configFile format

/-- Where the loop gives up. -/
theorem parseArguments_refused {rest : List Bytes} {e : ArgumentError} (h : Refused rest e)
    (configFile : Bytes) (format : OutputFormat) :
    parseArguments rest configFile format = .error e := by
  cases h with
  | missingFile => rfl
  | missingFormat => rfl
  | invalidFormat text rest htext hjson =>
    rw [parseArguments.eq_def]
    dsimp only
    rw [if_neg (by decide), if_pos rfl, outputParseFormat_eq_none_iff.mpr ⟨htext, hjson⟩]
  | unknownArgument argument rest hfile hformat =>
    rw [parseArguments.eq_def]
    dsimp only
    rw [if_neg hfile, if_neg hformat]

/-- **Every command line** is a list of options, or has a first thing behind them that is none. -/
theorem options_or_refused (arguments : List Bytes) (configFile : Bytes) (format : OutputFormat) :
    ∃ options : List CommandOption, arguments = options.flatMap CommandOption.words ∨
      ∃ rest e, arguments = options.flatMap CommandOption.words ++ rest ∧ Refused rest e := by
  have hoption : ∀ (option : CommandOption) {arguments : List Bytes},
      (∃ options : List CommandOption, arguments = options.flatMap CommandOption.words ∨
        ∃ rest e, arguments = options.flatMap CommandOption.words ++ rest ∧ Refused rest e) →
      ∃ options : List CommandOption, option.words ++ arguments =
          options.flatMap CommandOption.words ∨ ∃ rest e, option.words ++ arguments =
            options.flatMap CommandOption.words ++ rest ∧ Refused rest e := by
    rintro option arguments ⟨options, rfl | ⟨rest, e, rfl, hrefused⟩⟩
    · exact ⟨option :: options, .inl rfl⟩
    · refine ⟨option :: options, .inr ⟨rest, e, ?_, hrefused⟩⟩
      rw [List.flatMap_cons, List.append_assoc]
  fun_induction parseArguments arguments configFile format with
  | case1 => exact ⟨[], .inl rfl⟩
  | case2 => exact ⟨[], .inr ⟨_, _, rfl, .missingFile⟩⟩
  | case3 _ _ path arguments ih => exact hoption (.file path) ih
  | case4 => exact ⟨[], .inr ⟨_, _, rfl, .missingFormat⟩⟩
  | case5 _ _ text arguments f hsome _ ih =>
    obtain rfl := outputParseFormat_eq_some_iff.mp hsome
    exact hoption (.format f) ih
  | case6 _ _ text arguments hnone =>
    obtain ⟨htext, hjson⟩ := outputParseFormat_eq_none_iff.mp hnone
    exact ⟨[], .inr ⟨_, _, rfl, .invalidFormat text arguments htext hjson⟩⟩
  | case7 argument arguments _ _ hfile hformat =>
    exact ⟨[], .inr ⟨_, _, rfl, .unknownArgument argument arguments hfile hformat⟩⟩

/-- **The command line** is accepted exactly if it is a list of options, each with its value, and
then the last of each kind counts; otherwise what is reported is the first thing that is no
option. -/
theorem parseArguments_iff (arguments : List Bytes) (configFile : Bytes) (format : OutputFormat) :
    (∀ path f, parseArguments arguments configFile format = .ok (path, f) ↔
      ∃ options : List CommandOption, arguments = options.flatMap CommandOption.words ∧
        path = (options.filterMap CommandOption.file?).getLastD configFile ∧
        f = (options.filterMap CommandOption.format?).getLastD format) ∧
    ∀ e, parseArguments arguments configFile format = .error e ↔
      ∃ (options : List CommandOption) (rest : List Bytes),
        arguments = options.flatMap CommandOption.words ++ rest ∧ Refused rest e := by
  have haccepted : ∀ options : List CommandOption, parseArguments
      (options.flatMap CommandOption.words) configFile format =
        .ok ((options.filterMap CommandOption.file?).getLastD configFile,
          (options.filterMap CommandOption.format?).getLastD format) := by
    intro options
    have hwords := parseArguments_words options [] configFile format
    rwa [List.append_nil] at hwords
  have hrefused : ∀ (options : List CommandOption) {rest : List Bytes} {e : ArgumentError},
      Refused rest e → parseArguments (options.flatMap CommandOption.words ++ rest) configFile
        format = .error e := by
    intro options rest e h
    rw [parseArguments_words, parseArguments_refused h]
  refine ⟨fun path f => ⟨fun h => ?_, ?_⟩, fun e => ⟨fun h => ?_, ?_⟩⟩
  · obtain ⟨options, rfl | ⟨rest, e, rfl, hrest⟩⟩ := options_or_refused arguments configFile format
    · obtain ⟨rfl, rfl⟩ := Prod.mk.inj (Except.ok.inj ((haccepted options).symm.trans h))
      exact ⟨options, rfl, rfl, rfl⟩
    · cases (hrefused options hrest).symm.trans h
  · rintro ⟨options, rfl, rfl, rfl⟩
    exact haccepted options
  · obtain ⟨options, rfl | ⟨rest, e', rfl, hrest⟩⟩ := options_or_refused arguments configFile format
    · cases (haccepted options).symm.trans h
    · obtain rfl := Except.error.inj ((hrefused options hrest).symm.trans h)
      exact ⟨options, rest, rfl, hrest⟩
  · rintro ⟨options, rest, rfl, hrest⟩
    exact hrefused options hrest

/-- The value of `-c` is what stands behind it, whatever it is. -/
example : parseArguments [ascii "-c", ascii "--output", ascii "--output", ascii "json"]
    defaultConfigFile .text = .ok (ascii "--output", .json) := by decide

end EdgeSentinel.Monitor
