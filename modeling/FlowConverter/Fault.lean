import FlowConverter.Value.Printer

/-! Why a conversion stops. Each cause is a constructor; `Fault.message` is the text of those that
have one. -/
namespace FlowConverter

inductive Fault where
  /-- A value of a kind that the operation does not take. -/
  | wrongKind
  /-- A text operation on a value that is no text. -/
  | notText
  /-- An argument with a flag, but nothing that says whether its value stands apart. -/
  | separationUnset
  /-- A mapping without a key that is needed. -/
  | missingKey (key : Value)
  /-- An element that a list or a text is too short for. -/
  | outOfRange
  /-- A parameter type that no rule decides about. -/
  | undecided
  /-- An element that should hold exactly two. -/
  | notAPair
  | unsupportedType (kind : String)
  | unrecognizedType (type : Value)
  | unrecognizedClass (name : Value)
  | notADocument
  /-- Neither tasks nor a workflow. -/
  | emptyDocument
  /-- Tasks that are no list of mappings, or a workflow that is no mapping. -/
  | misshapenDocument
  /-- A task id that cannot be read as a pattern. -/
  | badPattern
  | fileNotFound
  | isADirectory
  | notADirectory
  /-- A path with a NUL character. -/
  | nulInPath
  /-- The file that a step runs is nowhere. -/
  | runNotFound (path : String)
  /-- The file to convert is nowhere. -/
  | inputNotFound (path : String)
  /-- Imports nested deeper than the bound. -/
  | nestingTooDeep
  /-- The validator refuses a text. -/
  | invalidText (reason : String)
  /-- A choice by remainder from an empty list. -/
  | emptyChoice

namespace Fault

/-- Keys, and texts in the place of keys, are quoted. -/
def message : Fault → Option String
  | missingKey key => some key.quoted
  | unsupportedType kind => some (Text.quoted ("Unsupported CWL type: " ++ kind))
  | unrecognizedType type => some (Text.quoted ("Unrecognized CWL type: " ++ type.text))
  | unrecognizedClass name => some ("Unrecognized CWL class: " ++ name.text)
  | notADocument => some "This doesn't appear to be a CWL document."
  | emptyDocument => some "Cannot convert NoneType to ParsedDocumentType."
  | misshapenDocument => some ""
  | runNotFound path => some ("Couldn't find file: " ++ path)
  | inputNotFound path => some (path ++ " does not exist.")
  | invalidText reason => some reason
  | _ => none

end Fault

end FlowConverter
