import TabNotes.Text.Hexadecimal

/-! # Faults

What can go wrong, by cause.  `Fault.kind` sorts the causes into the few kinds that callers tell
apart, and `Fault.message` is the only place that words them.  A template that cannot be parsed or
rendered is a `TemplateFault`; callers that fall back to a default template do so for these alone.

A cause that names an offending value holds the text in which that value is shown. -/

namespace TabNotes

/-- Why a text is not a template. -/
inductive SyntaxFault where
  /-- The template is not a text at all. -/
  | notText
  | unterminatedTriple
  | unterminatedTag
  | partialTag
  /-- A closing tag that does not close the innermost open section. -/
  | unexpectedClose (name : String)
  | missingName
  | tooDeep (limit : Int)
  | notClosed (name : String)
deriving DecidableEq

/-- Why a template cannot be rendered. -/
inductive TemplateFault where
  | malformed (cause : SyntaxFault)
  /-- A tag names a function. -/
  | functionValue
  /-- A value stands where a token should. -/
  | unsupportedToken (shown : String)
deriving DecidableEq

/-- Why a text is not a JSON document, with the place: line, column and offset. -/
structure JsonFault where
  reason : String
  line : Nat
  column : Nat
  offset : Nat
deriving DecidableEq

/-- Why bytes are not UTF-8: the first offending byte or bytes, where they stand, and the reason. -/
structure EncodingFault where
  /-- The offending byte when there is exactly one of them. -/
  byte : Option Nat
  first : Nat
  last : Nat
  reason : String
deriving DecidableEq

/-- Why a text has no bytes in UTF-8: the first surrogates that are in no pair, and where they
stand. -/
structure SurrogateFault where
  /-- The surrogate when there is exactly one. -/
  surrogate : Option Nat
  first : Nat
  last : Nat
deriving DecidableEq

/-- What is opened by a bracket in a JSON document. -/
inductive JsonBracket where
  | array
  | object
deriving DecidableEq

/-- What the file system refuses. -/
inductive FileRefusal where
  | missing
  | isDirectory
  | notDirectory
  | alreadyThere
  | nameTooLong
deriving DecidableEq

/-- Everything that can go wrong. -/
inductive Fault where
  | template (cause : TemplateFault)
  /-- An integer text of more digits than are read. -/
  | tooManyDigits (count : Nat)
  /-- An integer of more digits than are written. -/
  | tooLongToWrite
  | notAnInteger (shown : String)
  | nanToInteger
  | infinityToInteger
  | tooLargeForFloat
  /-- A value that stands for no moment. -/
  | badClock (shown : String)
  /-- Item `index` of a list of key-value pairs has `length` entries. -/
  | notAPair (index length : Nat)
  /-- Item `index` of a list of key-value pairs has no entries at all. -/
  | pairNotIterable (index : Nat)
  | yearOutOfRange (year : Int)
  | dateOutOfRange
  /-- A clock is a day or more away from UTC, by as many seconds. -/
  | offsetOutOfRange (seconds : Int)
  /-- Of two clocks only one knows its distance from UTC. -/
  | mixedClocks
  /-- A value without items is gone through. -/
  | notIterable (typeName : String)
  | notANumber (typeName : String)
  | notHashable (typeName : String)
  /-- Another value than a text is looked for in a text. -/
  | notSearchable (typeName : String)
  /-- A value that holds nothing is searched. -/
  | notSearched (typeName : String)
  /-- Another value than a text is cut into pieces. -/
  | notSplittable (typeName : String)
  /-- Another value than a text is percent-encoded. -/
  | notEncodable
  | notATimeZone (typeName : String)
  | notComparable (left right : String)
  | notSubtractable (left right : String)
  /-- Another value than a text is put in place of a mark. -/
  | badReplacement (typeName : String)
  /-- A value of a type that lacks an operation. -/
  | noOperation (typeName operation : String)
  /-- A key that no field has. -/
  | unknownKey (shown : String)
  | json (cause : JsonFault)
  /-- More brackets are open in a JSON document than can be. -/
  | tooManyBrackets (last : JsonBracket)
  | encoding (cause : EncodingFault)
  | surrogates (cause : SurrogateFault)
  | configMissing (path : String)
  | configNotObject (path : String)
  /-- A file holds JSON that is no snapshot of tabs. -/
  | snapshotShape (path : String)
  | file (cause : FileRefusal) (path : String)
  /-- The name of a file holds the character zero. -/
  | nulInFileName
  /-- The name of a directory to make holds the character zero. -/
  | nulInDirectoryName
  /-- A path to look up holds the character zero. -/
  | nulInPath
  /-- A path starts with the name of a user whose home is not known. -/
  | homeUnknown
deriving DecidableEq

/-- The kinds of fault that callers tell apart. -/
inductive FaultKind where
  | template
  | templateSyntax
  | value
  | json
  | encoding
  | surrogates
  | recursion
  | type
  | overflow
  | operation
  | key
  | fileMissing
  | fileIsDirectory
  | fileNotDirectory
  | fileExists
  | file
  | home
deriving DecidableEq

namespace SyntaxFault

/-- The wording of a syntax fault. -/
def message : SyntaxFault → String
  | notText => "Template must be a string."
  | unterminatedTriple => "Unterminated triple mustache."
  | unterminatedTag => "Unterminated mustache tag."
  | partialTag => "Partials are not supported in templates."
  | unexpectedClose name => "Unexpected closing tag for \"" ++ name ++ "\"."
  | missingName => "Section tag is missing a name."
  | tooDeep limit => "Sections are nested deeper than " ++ toString limit ++ " levels."
  | notClosed name => "Section \"" ++ name ++ "\" was not closed."

end SyntaxFault

namespace TemplateFault

/-- The wording of a template fault. -/
def message : TemplateFault → String
  | malformed cause => cause.message
  | functionValue => "Functions are not supported in templates."
  | unsupportedToken shown => "Unsupported token: " ++ shown

end TemplateFault

namespace JsonFault

/-- The wording of a JSON fault: the reason and the place. -/
def message (fault : JsonFault) : String :=
  fault.reason ++ ": line " ++ toString fault.line ++ " column " ++ toString fault.column ++
    " (char " ++ toString fault.offset ++ ")"

end JsonFault

namespace EncodingFault

/-- The wording of an encoding fault. -/
def message (fault : EncodingFault) : String :=
  match fault.byte with
  | some b =>
    "'utf-8' codec can't decode byte 0x" ++ String.ofList (Text.hexDigits 2 b) ++
      " in position " ++ toString fault.first ++ ": " ++ fault.reason
  | none =>
    "'utf-8' codec can't decode bytes in position " ++ toString fault.first ++ "-" ++
      toString fault.last ++ ": " ++ fault.reason

end EncodingFault

namespace SurrogateFault

/-- The wording of surrogates that cannot be encoded. -/
def message (fault : SurrogateFault) : String :=
  match fault.surrogate with
  | some n =>
    "'utf-8' codec can't encode character '\\u" ++ String.ofList (Text.hexDigits 4 n) ++
      "' in position " ++ toString fault.first ++ ": surrogates not allowed"
  | none =>
    "'utf-8' codec can't encode characters in position " ++ toString fault.first ++ "-" ++
      toString fault.last ++ ": surrogates not allowed"

end SurrogateFault

namespace JsonBracket

/-- The name of what a bracket opens. -/
def name : JsonBracket → String
  | array => "array"
  | object => "object"

end JsonBracket

namespace FileRefusal

/-- The number and wording of a refusal. -/
def message : FileRefusal → String
  | missing => "[Errno 2] No such file or directory"
  | alreadyThere => "[Errno 17] File exists"
  | notDirectory => "[Errno 20] Not a directory"
  | isDirectory => "[Errno 21] Is a directory"
  | nameTooLong => "[Errno 36] File name too long"

/-- The kind of a refusal. -/
def kind : FileRefusal → FaultKind
  | missing => .fileMissing
  | alreadyThere => .fileExists
  | notDirectory => .fileNotDirectory
  | isDirectory => .fileIsDirectory
  | nameTooLong => .file

end FileRefusal

namespace Fault

/-- A number of seconds as days and seconds, of which those that are zero are left out. -/
def shownSeconds (seconds : Int) : String :=
  let part (name : String) (n : Int) : List String :=
    if n == 0 then [] else [name ++ "=" ++ toString n]
  "datetime.timedelta(" ++
    String.intercalate ", " (part "days" (seconds / 86400) ++ part "seconds" (seconds % 86400)) ++ ")"

/-- The wording of a fault. -/
def message : Fault → String
  | template cause => cause.message
  | tooManyDigits count =>
    "Exceeds the limit (4300 digits) for integer string conversion: value has " ++ toString count ++
      " digits; use sys.set_int_max_str_digits() to increase the limit"
  | tooLongToWrite =>
    "Exceeds the limit (4300 digits) for integer string conversion; " ++
      "use sys.set_int_max_str_digits() to increase the limit"
  | notAnInteger shown => "invalid literal for int() with base 10: " ++ shown
  | nanToInteger => "cannot convert float NaN to integer"
  | infinityToInteger => "cannot convert float infinity to integer"
  | tooLargeForFloat => "int too large to convert to float"
  | badClock shown => "Unsupported clock value: " ++ shown
  | notAPair index length =>
    "dictionary update sequence element #" ++ toString index ++ " has length " ++ toString length ++
      "; 2 is required"
  | pairNotIterable index =>
    "cannot convert dictionary update sequence element #" ++ toString index ++ " to a sequence"
  | yearOutOfRange year => "year " ++ toString year ++ " is out of range"
  | dateOutOfRange => "date value out of range"
  | offsetOutOfRange seconds =>
    "offset must be a timedelta strictly between -timedelta(hours=24) and timedelta(hours=24), not " ++
      shownSeconds seconds ++ "."
  | mixedClocks => "can't subtract offset-naive and offset-aware datetimes"
  | notIterable typeName => "'" ++ typeName ++ "' object is not iterable"
  | notANumber typeName =>
    "int() argument must be a string, a bytes-like object or a real number, not '" ++
      typeName ++ "'"
  | notHashable typeName => "unhashable type: '" ++ typeName ++ "'"
  | notSearchable typeName =>
    "'in <string>' requires string as left operand, not " ++ typeName
  | notSearched typeName => "argument of type '" ++ typeName ++ "' is not iterable"
  | notSplittable typeName => "expected string or bytes-like object, got '" ++ typeName ++ "'"
  | notEncodable => "quote_from_bytes() expected bytes"
  | notATimeZone typeName =>
    "tzinfo argument must be None or of a tzinfo subclass, not type '" ++ typeName ++ "'"
  | notComparable left right =>
    "'>' not supported between instances of '" ++ left ++ "' and '" ++ right ++ "'"
  | notSubtractable left right =>
    "unsupported operand type(s) for -: '" ++ left ++ "' and '" ++ right ++ "'"
  | badReplacement typeName => "replace() argument 2 must be str, not " ++ typeName
  | noOperation typeName operation =>
    "'" ++ typeName ++ "' object has no attribute '" ++ operation ++ "'"
  | unknownKey shown => shown
  | json cause => cause.message
  | tooManyBrackets last =>
    "maximum recursion depth exceeded while decoding a JSON " ++ last.name ++
      " from a unicode string"
  | encoding cause => cause.message
  | surrogates cause => cause.message
  | configMissing path => "Config not found: " ++ path
  | configNotObject path => "Config must be a JSON object: " ++ path
  | snapshotShape path => "Snapshot must be a JSON list or object: " ++ path
  | file cause path => cause.message ++ ": " ++ path
  | nulInFileName => "embedded null byte"
  | nulInDirectoryName => "mkdir: embedded null character in path"
  | nulInPath => "lstat: embedded null character in path"
  | homeUnknown => "Could not determine home directory."

/-- The kind of a fault. -/
def kind : Fault → FaultKind
  | template (.malformed _) => .templateSyntax
  | template _ => .template
  | tooManyDigits _ | tooLongToWrite | notAnInteger _ | nanToInteger | badClock _ | notAPair _ _
  | yearOutOfRange _ | offsetOutOfRange _ | configNotObject _ | snapshotShape _ | nulInFileName
  | nulInDirectoryName | nulInPath => .value
  | infinityToInteger | tooLargeForFloat | dateOutOfRange => .overflow
  | pairNotIterable _ | mixedClocks | notIterable _ | notANumber _ | notHashable _
  | notSearchable _ | notSearched _ | notSplittable _ | notEncodable | notATimeZone _
  | notComparable _ _ | notSubtractable _ _ | badReplacement _ => .type
  | noOperation _ _ => .operation
  | unknownKey _ => .key
  | json _ => .json
  | tooManyBrackets _ => .recursion
  | encoding _ => .encoding
  | surrogates _ => .surrogates
  | configMissing _ => .fileMissing
  | file cause _ => cause.kind
  | homeUnknown => .home

end Fault

namespace FaultKind

/-- The kinds that say that a value is not acceptable, those of templates, JSON documents and
encodings among them. -/
def isValueKind : FaultKind → Bool
  | template | templateSyntax | value | json | encoding | surrogates => true
  | _ => false

/-- The kinds that the file system raises. -/
def isFileKind : FaultKind → Bool
  | fileMissing | fileIsDirectory | fileNotDirectory | fileExists | file => true
  | _ => false

end FaultKind

end TabNotes
