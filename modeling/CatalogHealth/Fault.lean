import CatalogHealth.Text.Quoted

/-!
# Faults

Everything that can go wrong, by cause. A fault has a class, which reports
show in front of its message, and a message. Faults of arithmetic and of
reading a value carry what was at hand when they arose; faults of documents,
settings and the command line carry the names they complain about.
-/

namespace CatalogHealth

/-- The class under which a fault is reported. -/
inductive FaultClass where
  /-- A value of the right kind that is not acceptable. -/
  | value
  /-- Unacceptable configuration. -/
  | config
  /-- A required key that is missing. -/
  | key
  /-- A value of the wrong kind. -/
  | type
  /-- An operation that a value of this kind does not offer. -/
  | operation
  /-- A number beyond the range of its format. -/
  | overflow
  /-- A division by zero. -/
  | zeroDivision
  /-- A file that does not exist. -/
  | fileNotFound
  /-- A directory where a file is needed. -/
  | isADirectory
  /-- A file where a directory is needed. -/
  | notADirectory
  /-- A file that is in the way of a new directory. -/
  | fileExists
  /-- A text that is no document. -/
  | document
  /-- A refused or broken database connection or query. -/
  | database
  /-- A database that cannot be reached. -/
  | connection
  /-- A class that a check supplied from outside names itself. -/
  | named (name : String)
deriving DecidableEq, Repr

namespace FaultClass

/-- The name of a class in reports. -/
def name : FaultClass → String
  | value => "ValueError"
  | config => "ConfigError"
  | key => "KeyError"
  | type => "TypeError"
  | operation => "AttributeError"
  | overflow => "OverflowError"
  | zeroDivision => "ZeroDivisionError"
  | fileNotFound => "FileNotFoundError"
  | isADirectory => "IsADirectoryError"
  | notADirectory => "NotADirectoryError"
  | fileExists => "FileExistsError"
  | document => "YAMLError"
  | database => "Error"
  | connection => "OperationalError"
  | named name => name

end FaultClass

/-- What went wrong. -/
inductive Fault where
  /-- A text that should spell an integer. -/
  | notAnInteger (text : Text)
  /-- A text with more digits than an integer is read from. -/
  | numeralTooLong (digits : Nat)
  /-- An integer to a base of its own without digits. -/
  | baseWithoutDigits (base : Nat)
  /-- An integer with more digits than an integer is written with. -/
  | integerTooLong
  /-- A text that should spell a number. -/
  | notANumber (text : Text)
  /-- An integer beyond the binary64 range. -/
  | integerTooLarge
  /-- A quotient of integers beyond the binary64 range. -/
  | quotientTooLarge
  /-- A deadline that is further away than can be waited. -/
  | waitTooLong
  /-- An infinity that should become an integer. -/
  | infinityToInteger
  /-- A NaN that should become an integer. -/
  | nanToInteger
  /-- A division of integers by zero. -/
  | divisionByZero
  /-- A division of binary64 numbers by zero. -/
  | floatDivisionByZero
  /-- An operation on two values whose kinds do not go together. -/
  | unsupportedOperands (operator left right : String)
  /-- A comparison of two values whose kinds have no common order. -/
  | notOrdered (operator left right : String)
  /-- A value of a kind that cannot be used here. -/
  | wrongKind
  /-- A value of a kind without members where members are expected. -/
  | notIterable (kind : String)
  /-- A value of a kind in which nothing can be looked for. -/
  | notSearchable (kind : String)
  /-- A value of a kind without keys where a key is looked up. -/
  | notSubscriptable (kind : String)
  /-- A text in which a key is looked up. -/
  | keyOfText
  /-- A list in which a key is looked up. -/
  | keyOfList
  /-- A value of a kind that stands for no integer. -/
  | noInteger (kind : String)
  /-- A value of a kind that stands for no number. -/
  | noNumber (kind : String)
  /-- A value of a kind that is a member of no set. -/
  | notAMember (kind : String)
  /-- A member of a list of texts that is none. -/
  | notJoinable (place : Nat) (kind : String)
  /-- A value that offers no fields or no text operations. -/
  | noSuchOperation
  /-- A value of a kind that lacks the operation of a name. -/
  | lacksOperation (kind operation : String)
  /-- A code point beyond the last one. -/
  | codePointOutOfRange
  /-- A code point beyond the range of machine integers. -/
  | codePointTooLarge
  /-- A text with a half of a pair where its bytes are needed. -/
  | textWithoutBytes
  /-- A required key that is missing, as messages quote it. -/
  | missingKey (quoted : String)
  /-- A row with too few values. -/
  | tooFewValues (expected got : Nat)
  /-- A row with too many values. -/
  | tooManyValues (expected : Nat)
  /-- A row without the columns that identify its index. -/
  | rowTooShort
  /-- Two objects of one kind with the same identifier. -/
  | duplicateIdentifier (kind : String) (identifier : Text)
  /-- A constraint whose type is none of the known ones. -/
  | unknownConstraintType (constraint given : Text)
  /-- A document entry without the key that messages quote. -/
  | entryLacksKey (quoted : String)
  /-- A document entry of the wrong kind. -/
  | entryOfWrongKind (reason : Text)
  /-- A snapshot document that is not a mapping. -/
  | snapshotNotMapping (path : String)
  /-- A snapshot file that does not exist. -/
  | snapshotNotFound (path : String)
  /-- A configuration file that is not a mapping. -/
  | configNotMapping (path : String)
  /-- A configuration file that does not exist. -/
  | configNotFound (path : String)
  /-- A threshold that is not a number. -/
  | thresholdNotNumber (threshold quoted : String)
  /-- A threshold below zero. -/
  | thresholdNegative (threshold : String) (shown : Text)
  /-- A ratio threshold above one. -/
  | thresholdNotRatio (threshold : String)
  /-- Selected checks that do not exist. -/
  | unknownChecks (names : List Text)
  /-- Exclusion rules for checks that do not exist. -/
  | unknownScopes (names : List Text)
  /-- Keys that a configuration section does not know. -/
  | unknownSettings (part : String) (names : List Text)
  /-- A configuration section that is a list of names that it knows. -/
  | sectionOfWrongKind (part taker : String)
  /-- A configuration section with an unacceptable value. -/
  | invalidSection (part : String) (reason : Text)
  /-- An exclusion entry without a pattern. -/
  | exclusionLacksPattern (quoted : String)
  /-- An empty exclusion pattern. -/
  | emptyPattern
  /-- An exclusion entry whose pattern is unacceptable. -/
  | invalidExclusion (reason : Text)
  /-- An indentation that is not an integer. -/
  | indentationNotInteger
  /-- An indentation outside its range. -/
  | indentationOutOfRange
  /-- A placement of `idx` in index names that does not exist. -/
  | unknownPlacement (quoted : String)
  /-- An object offered as a check that is none. -/
  | notACheck (label : String)
  /-- A check under a name that is taken. -/
  | checkRegistered (name : String)
  /-- A text that is no document. -/
  | unreadableDocument
  /-- A file to be written at the path of a directory. -/
  | writesDirectory (path : String)
  /-- A directory to be made at the path of a file. -/
  | directoryIsFile (path : String)
  /-- A directory to be made below a file. -/
  | belowFile (path : String)
  /-- A path with a character of code zero. -/
  | zeroInPath
  /-- A path that is too long, or whose last name is. -/
  | nameTooLong (path : String)
  /-- A failing database query. -/
  | queryFailed (message : String)
  /-- A database that refuses the connection. -/
  | connectionFailed (message : String)
  /-- A failure that a check or a database supplied from outside reports. -/
  | reported (name message : String)
deriving DecidableEq, Repr

namespace Fault

/-- The class under which a fault is reported. -/
def kind : Fault → FaultClass
  | notAnInteger _ | numeralTooLong _ | baseWithoutDigits _ | integerTooLong | notANumber _
  | nanToInteger | codePointOutOfRange | tooFewValues .. | tooManyValues _
  | duplicateIdentifier .. | unknownConstraintType .. | entryLacksKey _ | entryOfWrongKind _
  | snapshotNotMapping _ | emptyPattern | indentationNotInteger | indentationOutOfRange
  | unknownPlacement _ | notACheck _ | checkRegistered _ | zeroInPath => .value
  | configNotMapping _ | thresholdNotNumber .. | thresholdNegative .. | thresholdNotRatio _
  | unknownChecks _ | unknownScopes _ | unknownSettings .. | sectionOfWrongKind ..
  | invalidSection .. | exclusionLacksPattern _ | invalidExclusion _ => .config
  | integerTooLarge | quotientTooLarge | waitTooLong | infinityToInteger | codePointTooLarge =>
    .overflow
  | divisionByZero | floatDivisionByZero => .zeroDivision
  | unsupportedOperands .. | notOrdered .. | wrongKind | notIterable _ | notSearchable _
  | notSubscriptable _ | keyOfText | keyOfList | noInteger _ | noNumber _ | notAMember _
  | notJoinable .. => .type
  | noSuchOperation | lacksOperation .. => .operation
  | missingKey _ => .key
  | rowTooShort => .named "IndexError"
  | textWithoutBytes => .named "UnicodeEncodeError"
  | snapshotNotFound _ | configNotFound _ => .fileNotFound
  | unreadableDocument => .document
  | writesDirectory _ => .isADirectory
  | directoryIsFile _ => .fileExists
  | belowFile _ => .notADirectory
  | nameTooLong _ => .named "OSError"
  | queryFailed _ => .database
  | connectionFailed _ => .connection
  | reported name _ => .named name

/-- The message of a fault. Faults whose wording nothing shows have none. -/
def message : Fault → Text
  | notAnInteger text =>
    "invalid literal for int() with base 10: " ++ String.ofList ((Text.quoted text).toList.take 200)
  | numeralTooLong digits =>
    "Exceeds the limit (4300 digits) for integer string conversion: value has " ++
      toString digits ++ " digits; use sys.set_int_max_str_digits() to increase the limit"
  | baseWithoutDigits base =>
    "invalid literal for int() with base " ++ toString base ++ ": ''"
  | integerTooLong =>
    "Exceeds the limit (4300 digits) for integer string conversion; use " ++
      "sys.set_int_max_str_digits() to increase the limit"
  | notANumber text => "could not convert string to float: " ++ Text.quoted text
  | integerTooLarge => "int too large to convert to float"
  | quotientTooLarge => "integer division result too large for a float"
  | waitTooLong => "timeout value is too large"
  | infinityToInteger => "cannot convert float infinity to integer"
  | nanToInteger => "cannot convert float NaN to integer"
  | divisionByZero => "division by zero"
  | floatDivisionByZero => "float division by zero"
  | unsupportedOperands operator left right =>
    "unsupported operand type(s) for " ++ operator ++ ": '" ++ left ++ "' and '" ++ right ++ "'"
  | notOrdered operator left right =>
    "'" ++ operator ++ "' not supported between instances of '" ++ left ++ "' and '" ++ right ++ "'"
  | wrongKind => ""
  | notIterable kind => "'" ++ kind ++ "' object is not iterable"
  | notSearchable kind => "argument of type '" ++ kind ++ "' is not iterable"
  | notSubscriptable kind => "'" ++ kind ++ "' object is not subscriptable"
  | keyOfText => "string indices must be integers, not 'str'"
  | keyOfList => "list indices must be integers or slices, not str"
  | noInteger kind =>
    "int() argument must be a string, a bytes-like object or a real number, not '" ++ kind ++ "'"
  | noNumber kind => "float() argument must be a string or a real number, not '" ++ kind ++ "'"
  | notAMember kind => "unhashable type: '" ++ kind ++ "'"
  | notJoinable place kind =>
    "sequence item " ++ toString place ++ ": expected str instance, " ++ kind ++ " found"
  | noSuchOperation => ""
  | lacksOperation kind operation =>
    "'" ++ kind ++ "' object has no attribute '" ++ operation ++ "'"
  | codePointOutOfRange => "chr() arg not in range(0x110000)"
  | codePointTooLarge => ""
  | textWithoutBytes => ""
  | missingKey quoted => quoted
  | tooFewValues expected got =>
    "not enough values to unpack (expected " ++ toString expected ++ ", got " ++ toString got ++ ")"
  | tooManyValues expected =>
    "too many values to unpack (expected " ++ toString expected ++ ")"
  | rowTooShort => "tuple index out of range"
  | duplicateIdentifier kind identifier => "Duplicate identifier in " ++ kind ++ ": " ++ identifier
  | unknownConstraintType constraint given =>
    "Unknown constraint type for " ++ constraint ++ ": " ++ given
  | entryLacksKey quoted => "Malformed snapshot entry: " ++ quoted
  | entryOfWrongKind reason => "Malformed snapshot entry: " ++ reason
  | snapshotNotMapping path => "Snapshot document must be a mapping: " ++ path
  | snapshotNotFound path => "Snapshot file not found: " ++ path
  | configNotMapping path => "Config file must contain a mapping: " ++ path
  | configNotFound path => "Config file not found: " ++ path
  | thresholdNotNumber threshold quoted =>
    "Threshold '" ++ threshold ++ "' must be a number, got " ++ quoted
  | thresholdNegative threshold shown =>
    "Threshold '" ++ threshold ++ "' must not be negative, got " ++ shown
  | thresholdNotRatio threshold => "Threshold '" ++ threshold ++ "' must be between 0 and 1"
  | unknownChecks names => "Unknown check id(s): " ++ Text.join ", " names
  | unknownScopes names => "Exclusion scoped to unknown check id(s): " ++ Text.join ", " names
  | unknownSettings part names =>
    "Unknown key(s) in '" ++ part ++ "': " ++ Text.join ", " names
  | sectionOfWrongKind part taker =>
    "Invalid '" ++ part ++ "' section: " ++ taker ++
      "() argument after ** must be a mapping, not list"
  | invalidSection part reason => "Invalid '" ++ part ++ "' section: " ++ reason
  | exclusionLacksPattern quoted => "Exclusion entry needs a 'pattern': " ++ quoted
  | emptyPattern => "Exclusion pattern must not be empty"
  | invalidExclusion reason => reason
  | indentationNotInteger => "indentation should be an integer"
  | indentationOutOfRange => "indentation should be in the range [0, 8]"
  | unknownPlacement quoted => quoted ++ " is not a valid IdxPosition"
  | notACheck label => "Not a check: " ++ label
  | checkRegistered name => "Check already registered: " ++ name
  | unreadableDocument => ""
  | writesDirectory path => "[Errno 21] Is a directory: " ++ Text.quoted path
  | directoryIsFile path => "[Errno 17] File exists: " ++ Text.quoted path
  | belowFile path => "[Errno 20] Not a directory: " ++ Text.quoted path
  | zeroInPath => "embedded null byte"
  | nameTooLong path => "[Errno 36] File name too long: " ++ Text.quoted path
  | queryFailed message => message
  | connectionFailed message => message
  | reported _ message => message

/-- A fault on one line: its class and its message. -/
def line (fault : Fault) : Text := fault.kind.name ++ ": " ++ fault.message

end Fault

/-- The string that a text is; no other text has bytes. -/
def Text.asString (t : Text) : Except Fault String :=
  match t.string? with
  | some s => .ok s
  | none => .error .textWithoutBytes

end CatalogHealth
