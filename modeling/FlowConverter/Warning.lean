import FlowConverter.Value.Printer

/-! What a conversion reports and goes on from. -/
namespace FlowConverter

/-- The two streams of a tool. -/
inductive Stream where
  | stdin
  | stdout

def Stream.name : Stream → String
  | stdin => "stdin"
  | stdout => "stdout"

inductive Warning where
  | streamExpression (value : Value) (stream : Stream)
  | valueExpression
  | globExpression
  | outputBinding (binding : Value)
  | outputWithoutBinding (output : Value)
  | dockerKind (keys : List String)
  | resources
  | inlineScript
  | requirementClass (name : Value)
  | requirementNotFound (path : String)
  | requirement (entry : Value)
  | treeImpliesValidation

/-- The text of a warning. -/
def Warning.text : Warning → String
  | streamExpression value stream =>
    "Can't evaluate expression: " ++ value.text ++ " in " ++ stream.name
  | valueExpression => "Expressions are not supported."
  | globExpression => "Cannot evaluate expression within a 'glob' outputBinding."
  | outputBinding binding => "Unsupported outputBinding: " ++ binding.text
  | outputWithoutBinding output => "Not sure how to handle this output: " ++ output.text
  | dockerKind keys => "Unsupported docker requirement type: " ++ " ".intercalate keys
  | resources => "Resource requirements are not currently supported."
  | inlineScript => "'InlineJavascript' requirement is not supported."
  | requirementClass name =>
    "The CWL requirement class: " ++ name.text ++ ", is not supported"
  | requirementNotFound path => "Couldn't find file: " ++ path
  | requirement entry => "The CWL requirement: " ++ entry.text ++ ", is not supported"
  | treeImpliesValidation =>
    "By specifying 'ast' format you are implicity imposing validation."

/-- A warning as a line of a log: place, kind and text, and never the line of source. -/
def warningLine (message category file : String) (line : Int) : String :=
  file ++ ":" ++ toString line ++ ": " ++ category ++ ": " ++ message ++ "\n"

end FlowConverter
