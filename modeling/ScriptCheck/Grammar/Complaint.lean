import ScriptCheck.Text.Digits

/-!
# Complaints

Everything that a grammar can find wrong with a script. `Complaint.message` holds the wording, and a
`Problem` puts a complaint at a line and a column.
-/

namespace ScriptCheck.Grammar

/-- Something wrong with a script. -/
inductive Complaint where
  | unexpectedToken (shown : String)
  | unexpectedNumber
  | unexpectedString
  | unexpectedIdentifier
  | unexpectedReserved
  | unexpectedTemplate (raw : String)
  | unexpectedEnd
  | nothingExpected
  | badGetterArity
  | badSetterArity
  | badSetterRest
  | badImportArity
  | constructorIsAsync
  | constructorIsAccessor
  | missingInitializer (kind : String)
  | defaultOfRest
  | duplicateBinding (name : String)
  | duplicateConstructor
  | duplicateProto
  | loopInitializer (loop : String)
  | generatorInLegacyPlace
  | illegalBreak
  | illegalContinue
  | illegalExport
  | illegalImport
  | illegalDirective
  | illegalReturn
  | escapedKeyword
  | invalidHexEscape
  | invalidAssignmentTarget
  | invalidForInTarget
  | invalidForLoopTarget
  | invalidModuleName
  | invalidPattern
  | letAsName
  | severalDefaults
  | newlineAfterThrow
  | noAsAfterNamespace
  | noCatchOrFinally
  | afterRestParameter
  | redeclaredLabel (name : String)
  | staticPrototype
  | strictCatchVariable
  | strictDelete
  | strictFunction
  | strictFunctionName
  | strictAssignment
  | strictPostfix
  | strictPrefix
  | strictWith
  | strictOctal
  | strictDuplicateParameter
  | strictParameterName
  | strictReservedWord
  | strictVariableName
  | templateOctal
  | unknownLabel (name : String)
  | unterminatedPattern
  | unsupported (feature : String)
  deriving DecidableEq, Repr, Inhabited

namespace Complaint

/-- A character or a sequence that belongs to no token. -/
def illegal : Complaint := .unexpectedToken "ILLEGAL"

/-- The wording of a complaint. -/
def message : Complaint → String
  | .unexpectedToken shown => "Unexpected token " ++ shown
  | .unexpectedNumber => "Unexpected number"
  | .unexpectedString => "Unexpected string"
  | .unexpectedIdentifier => "Unexpected identifier"
  | .unexpectedReserved => "Unexpected reserved word"
  | .unexpectedTemplate raw => "Unexpected quasi " ++ raw
  | .unexpectedEnd => "Unexpected end of input"
  | .nothingExpected => "Unexpected token"
  | .badGetterArity => "Getter must not have any formal parameters"
  | .badSetterArity => "Setter must have exactly one formal parameter"
  | .badSetterRest => "Setter function argument must not be a rest parameter"
  | .badImportArity => "Unexpected token"
  | .constructorIsAsync => "Class constructor may not be an async method"
  | .constructorIsAccessor => "Class constructor may not be an accessor"
  | .missingInitializer kind => "Missing initializer in " ++ kind ++ " declaration"
  | .defaultOfRest => "Unexpected token ="
  | .duplicateBinding name => "Duplicate binding " ++ name
  | .duplicateConstructor => "A class may only have one constructor"
  | .duplicateProto => "Duplicate __proto__ fields are not allowed in object literals"
  | .loopInitializer loop =>
      loop ++ " loop variable declaration may not have an initializer"
  | .generatorInLegacyPlace => "Generator declarations are not allowed in legacy contexts"
  | .illegalBreak => "Illegal break statement"
  | .illegalContinue => "Illegal continue statement"
  | .illegalExport => "Unexpected token"
  | .illegalImport => "Unexpected token"
  | .illegalDirective =>
      "Illegal 'use strict' directive in function with non-simple parameter list"
  | .illegalReturn => "Illegal return statement"
  | .escapedKeyword => "Keyword must not contain escaped characters"
  | .invalidHexEscape => "Invalid hexadecimal escape sequence"
  | .invalidAssignmentTarget => "Invalid left-hand side in assignment"
  | .invalidForInTarget => "Invalid left-hand side in for-in"
  | .invalidForLoopTarget => "Invalid left-hand side in for-loop"
  | .invalidModuleName => "Unexpected token"
  | .invalidPattern => "Invalid regular expression"
  | .letAsName => "let is disallowed as a lexically bound name"
  | .severalDefaults => "More than one default clause in switch statement"
  | .newlineAfterThrow => "Illegal newline after throw"
  | .noAsAfterNamespace => "Unexpected token"
  | .noCatchOrFinally => "Missing catch or finally after try"
  | .afterRestParameter => "Rest parameter must be last formal parameter"
  | .redeclaredLabel name => "Label '" ++ name ++ "' has already been declared"
  | .staticPrototype => "Classes may not have static property named prototype"
  | .strictCatchVariable => "Catch variable may not be eval or arguments in strict mode"
  | .strictDelete => "Delete of an unqualified identifier in strict mode."
  | .strictFunction =>
      "In strict mode code, functions can only be declared at top level or inside a block"
  | .strictFunctionName => "Function name may not be eval or arguments in strict mode"
  | .strictAssignment => "Assignment to eval or arguments is not allowed in strict mode"
  | .strictPostfix =>
      "Postfix increment/decrement may not have eval or arguments operand in strict mode"
  | .strictPrefix =>
      "Prefix increment/decrement may not have eval or arguments operand in strict mode"
  | .strictWith => "Strict mode code may not include a with statement"
  | .strictOctal => "Octal literals are not allowed in strict mode."
  | .strictDuplicateParameter =>
      "Strict mode function may not have duplicate parameter names"
  | .strictParameterName =>
      "Parameter name eval or arguments is not allowed in strict mode"
  | .strictReservedWord => "Use of future reserved word in strict mode"
  | .strictVariableName => "Variable name may not be eval or arguments in strict mode"
  | .templateOctal => "Octal literals are not allowed in template strings."
  | .unknownLabel name => "Undefined label '" ++ name ++ "'"
  | .unterminatedPattern => "Invalid regular expression: missing /"
  | .unsupported feature => feature ++ " is not supported by ECMA 5.1."

/-- The text of a complaint about a line. -/
def text (line : Nat) (complaint : Complaint) : String :=
  "Line " ++ String.ofList (Text.decimal line) ++ ": " ++ complaint.message

end Complaint

/-- A complaint at a line and a column. The column counts from the start of the line on which the
last token ended, so it can fall below one. -/
structure Problem where
  line : Nat
  column : Int
  complaint : Complaint
  deriving DecidableEq, Repr, Inhabited

/-- The text of a problem. -/
def Problem.text (problem : Problem) : String := problem.complaint.text problem.line

end ScriptCheck.Grammar
