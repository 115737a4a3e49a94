import SchemaBridge.CommandLine.Usage

/-!
# Arguments

The arguments of a command are options and positional values in any order. An option is written in
full (`--output FILE`, `--output=FILE`) or by a letter, and letters may stand together; the rest of
the word after the letter of an option with a value is that value (`-uoFILE`). A value that is not
in the same word is the next word, whatever it looks like. After the word `--` everything is
positional.
-/

set_option autoImplicit false

namespace SchemaBridge.CommandLine

/-- The options of the commands. -/
inductive Switch where
  | dialect
  | unboundedAsArray
  | arrayElement
  | originTypes
  | output
  | schema
  | verbose
deriving DecidableEq, Repr

namespace Switch

/-- The option's name in full, after the dashes. -/
def name : Switch → String
  | .dialect => "dialect"
  | .unboundedAsArray => "unbounded-as-array"
  | .arrayElement => "array-element"
  | .originTypes => "origin-types"
  | .output => "output"
  | .schema => "xsd"
  | .verbose => "verbose"

/-- The option's letter, if it has one. -/
def letter? : Switch → Option Char
  | .dialect => some 'd'
  | .unboundedAsArray => some 'u'
  | .arrayElement => some 'a'
  | .output => some 'o'
  | .verbose => some 'v'
  | .originTypes | .schema => none

/-- The option has a value; the others are flags. -/
def hasValue : Switch → Bool
  | .dialect | .arrayElement | .output | .schema => true
  | .unboundedAsArray | .originTypes | .verbose => false

/-- The option's name in full as it is written. -/
def spelling (s : Switch) : String := "--" ++ s.name

end Switch

/-- An option as given, with its value if it has one. -/
structure Setting where
  switch : Switch
  value? : Option String := none
deriving DecidableEq, Repr

/-- The options and the positional values of a command, each in order. -/
structure Arguments where
  settings : List Setting := []
  values : List String := []
deriving DecidableEq, Repr

/-- What one word sets: some options, and perhaps one whose value is the next word. -/
structure WordSettings where
  settings : List Setting := []
  awaiting? : Option Switch := none

/-- The text before the first equals sign, and the text after it if there is one. -/
def splitAtEquals : List Char → List Char × Option (List Char)
  | [] => ([], none)
  | '=' :: rest => ([], some rest)
  | c :: rest =>
      let (before, after?) := splitAtEquals rest
      (c :: before, after?)

/-- What a name in full sets, with the value attached to it if there is one. -/
def longSettings (known : List Switch) (name : String) (value? : Option String) :
    Except UsageError WordSettings :=
  match known.find? (·.name = name), value? with
  | none, _ => .error (.unknownOption ("--" ++ name))
  | some switch, some value =>
      if switch.hasValue then .ok { settings := [⟨switch, some value⟩] }
      else .error (.unexpectedValue switch.spelling)
  | some switch, none =>
      if switch.hasValue then .ok { awaiting? := some switch }
      else .ok { settings := [⟨switch, none⟩] }

/-- What letters that stand together set. -/
def letterSettings (known : List Switch) : List Char → Except UsageError WordSettings
  | [] => .ok {}
  | c :: rest =>
      match known.find? (·.letter? = some c) with
      | none => .error (.unknownOption (String.ofList ['-', c]))
      | some switch =>
          if switch.hasValue then
            if rest.isEmpty then .ok { awaiting? := some switch }
            else .ok { settings := [⟨switch, some (String.ofList rest)⟩] }
          else
            (letterSettings known rest).map fun more =>
              { more with settings := ⟨switch, none⟩ :: more.settings }

/-- What a word sets; `none` for a positional value. A single dash is a value. -/
def wordSettings? (known : List Switch) (word : List Char) :
    Option (Except UsageError WordSettings) :=
  match word with
  | '-' :: '-' :: rest =>
      let (name, value?) := splitAtEquals rest
      some (longSettings known (String.ofList name) (value?.map String.ofList))
  | '-' :: c :: rest => some (letterSettings known (c :: rest))
  | _ => none

/-- Read words, after some that have been read already. -/
def readWords (known : List Switch) (read : Arguments) : List String → Except UsageError Arguments
  | [] => .ok read
  | word :: rest =>
      if word = "--" then .ok { read with values := read.values ++ rest }
      else
        match wordSettings? known word.toList with
        | none => readWords known { read with values := read.values ++ [word] } rest
        | some (.error error) => .error error
        | some (.ok ⟨settings, none⟩) =>
            readWords known { read with settings := read.settings ++ settings } rest
        | some (.ok ⟨settings, some switch⟩) =>
            match rest with
            | [] => .error (.missingValue switch.spelling)
            | value :: rest =>
                readWords known
                  { read with settings := read.settings ++ settings ++ [⟨switch, some value⟩] } rest

namespace Arguments

/-- Read the words after a command's name. -/
def ofWords (known : List Switch) (words : List String) : Except UsageError Arguments :=
  readWords known {} words

/-- The option is set. -/
def has (arguments : Arguments) (switch : Switch) : Bool :=
  arguments.settings.any (·.switch = switch)

/-- All values of an option, in order. -/
def valuesOf (arguments : Arguments) (switch : Switch) : List String :=
  (arguments.settings.filter (·.switch = switch)).filterMap Setting.value?

/-- The value of an option; the last one counts. -/
def value? (arguments : Arguments) (switch : Switch) : Option String :=
  (arguments.valuesOf switch).getLast?

/-- The only positional value. -/
def onlyValue (arguments : Arguments) (name : String) : Except UsageError String :=
  match arguments.values with
  | [] => .error (.missingArgument name)
  | [value] => .ok value
  | _ :: extra :: _ => .error (.unexpectedArgument extra)

end Arguments

end SchemaBridge.CommandLine
