import Rehearsal.Json.Parser
import Rehearsal.Pattern.Parser
import Rehearsal.Text.Duration

/-!
# Errors

Everything that can go wrong while a test case is loaded or run, by its cause. `Error.message` is
the one place where an error is put into words. An error that comes out of an action is wrapped in
`execution` with the name of the action, once for each action it leaves: `rootCause` is what is
underneath, `failedAction?` the innermost action and `wrapDepth` the number of wrappers.
-/

namespace Rehearsal

/-- Why bytes could not be read as text. -/
inductive DecodeFault
  | unsupportedCharset (name : String)
  /-- The bytes stop being text in the charset at `offset`. -/
  | malformed (charset : String) (offset : Nat)
  deriving DecidableEq, Repr

def DecodeFault.message : DecodeFault → String
  | .unsupportedCharset name => s!"unsupported charset '{name}'"
  | .malformed charset offset => s!"malformed {charset} input at byte {offset}"

/-- How many arguments a function takes. -/
inductive Arity
  | exactly (n : Nat)
  | atLeast (n : Nat)
  | between (low high : Nat)
  deriving DecidableEq, Repr

def Arity.text : Arity → String
  | .exactly n => s!"{n}"
  | .atLeast n => s!"at least {n}"
  | .between low high => s!"{low} to {high}"

def Arity.admits (n : Nat) : Arity → Bool
  | .exactly m => n = m
  | .atLeast m => m ≤ n
  | .between low high => low ≤ n && n ≤ high

/-- What is wrong with the arguments of a function. -/
inductive ArgumentFault
  | count (expected : Arity) (got : Nat)
  | number (text : String)
  | index (text : String)
  | range (start stop length : Nat)
  | pattern (fault : Pattern.Fault)
  | mode (text : String)
  | dateFormat (text : String)
  | other (reason : String)
  deriving DecidableEq, Repr

def ArgumentFault.message : ArgumentFault → String
  | .count expected got =>
    let expected := expected.text
    s!"expected {expected} arguments, got {got}"
  | .number text => s!"'{text}' is not a number"
  | .index text => s!"'{text}' is not a valid index"
  | .range start stop length => s!"range {start}..{stop} out of bounds for length {length}"
  | .pattern fault => "invalid pattern: " ++ fault.message
  | .mode text => s!"unknown mode '{text}'"
  | .dateFormat text => s!"invalid format '{text}'"
  | .other reason => reason

/-- Why an expression has no value. -/
inductive ExpressionFault
  | unterminated (template : String)
  | notMatcher (expression : String)
  | malformedMatcher (expression : String)
  | matcherArity (matcher : String) (got : Nat)
  | pattern (text : String) (fault : Pattern.Fault)
  | length (text : String)
  | condition (text : String)
  deriving DecidableEq, Repr

def ExpressionFault.message : ExpressionFault → String
  | .unterminated template => s!"unterminated placeholder in '{template}'"
  | .notMatcher expression => s!"'{expression}' is not a matcher expression"
  | .malformedMatcher expression => s!"malformed matcher expression '{expression}'"
  | .matcherArity matcher got => s!"matcher '{matcher}' expects exactly one argument, got {got}"
  | .pattern text fault => s!"invalid pattern '{text}': " ++ fault.message
  | .length text => s!"stringLength: '{text}' is not a length"
  | .condition text => s!"cannot evaluate condition '{text}'"

/-- How a received value differs from what was expected. -/
inductive Mismatch
  /-- The value does not meet the expectation of a matcher. -/
  | unmet (field value expectation : String)
  | number (matcher text : String)
  | controlJson (fault : Json.Fault)
  | receivedJson (fault : Json.Fault)
  | payload (expected actual : String)
  | unexpectedField (path : String)
  | missingField (path : String)
  | arrayLength (path : String) (actual expected : Nat)
  | unequal (path expected actual : String)
  | missingHeader (name : String)
  | header (name expected actual : String)
  | headerDataCount (expected actual : Nat)
  | headerData (index : Nat) (expected actual : String)
  | other (reason : String)
  deriving DecidableEq, Repr

def Mismatch.message : Mismatch → String
  | .unmet field value expectation => s!"'{field}' value '{value}' {expectation}"
  | .number matcher text => s!"{matcher}: '{text}' is not a number"
  | .controlJson fault => "control payload is not valid JSON: " ++ fault.message
  | .receivedJson fault => "received payload is not valid JSON: " ++ fault.message
  | .payload expected actual => s!"payload mismatch, expected '{expected}' but was '{actual}'"
  | .unexpectedField path => s!"unexpected field '{path}' in received payload"
  | .missingField path => s!"missing field '{path}' in received payload"
  | .arrayLength path actual expected =>
    s!"array '{path}' has {actual} elements, expected {expected}"
  | .unequal path expected actual =>
    s!"value mismatch at '{path}', expected {expected} but was {actual}"
  | .missingHeader name => s!"missing header '{name}' in received message"
  | .header name expected actual =>
    s!"header '{name}' mismatch, expected '{expected}' but was '{actual}'"
  | .headerDataCount expected actual =>
    s!"expected {expected} header data blocks but received {actual}"
  | .headerData index expected actual =>
    s!"header data block {index} mismatch, expected '{expected}' but was '{actual}'"
  | .other reason => reason

/-- Why a data dictionary failed. -/
inductive DictionaryFault
  | pattern (text : String) (fault : Pattern.Fault)
  | payloadJson (fault : Json.Fault)
  | resultJson (fault : Json.Fault)
  deriving DecidableEq, Repr

def DictionaryFault.message : DictionaryFault → String
  | .pattern text fault => s!"invalid pattern '{text}': " ++ fault.message
  | .payloadJson fault => "payload is not valid JSON: " ++ fault.message
  | .resultJson fault => "translation produced invalid JSON: " ++ fault.message

/-- Why a message processor failed. -/
inductive ProcessingFault
  | missingHeader (name : String)
  | payloadJson (fault : Json.Fault)
  | noValue (path : String)
  | other (reason : String)
  deriving DecidableEq, Repr

def ProcessingFault.message : ProcessingFault → String
  | .missingHeader name => s!"Failed to find header '{name}' in message"
  | .payloadJson fault => "payload is not valid JSON: " ++ fault.message
  | .noValue path => s!"No value found for JSON path '{path}'"
  | .other reason => reason

/-- What is wrong with a configuration or with the definition of a test case. -/
inductive ConfigFault
  | timeout (setting : String) (fault : Text.NumberFault)
  | messageType (name : String)
  | strategy (name : String)
  | mappings (path reason : String)
  | actor (name : String)
  | endpoint (name : String)
  | dictionary (name : String)
  | endpointRequired (action : String)
  | conflict (first second : String)
  | definition (reason : String)
  | executed (testCase : String)
  deriving DecidableEq, Repr

def ConfigFault.message : ConfigFault → String
  | .timeout setting fault => s!"{setting} must be milliseconds: " ++ fault.message
  | .messageType name => s!"unknown message type '{name}'"
  | .strategy name => s!"unknown path mapping strategy '{name}'"
  | .mappings path reason => s!"invalid dictionary mappings in '{path}': {reason}"
  | .actor name => s!"unknown actor '{name}'"
  | .endpoint name => s!"unknown endpoint '{name}'"
  | .dictionary name => s!"unknown dictionary '{name}'"
  | .endpointRequired action => s!"{action} action requires an endpoint"
  | .conflict first second => s!"message cannot combine {first} with {second}"
  | .definition reason => s!"Failed to parse test case YAML: {reason}"
  | .executed testCase => s!"test case '{testCase}' has already been executed"

/-- Why a script gave no payload. -/
inductive ScriptFault
  | noEngine
  | other (reason : String)
  deriving DecidableEq, Repr

def ScriptFault.message : ScriptFault → String
  | .noEngine => "no script engine is configured"
  | .other reason => reason

/-- What a name in a test case refers to. -/
inductive ReferenceKind
  | endpoint
  | dictionary
  deriving DecidableEq, Repr

def ReferenceKind.text : ReferenceKind → String
  | .endpoint => "the name of an endpoint"
  | .dictionary => "the name of a dictionary"

/-- What went wrong. -/
inductive Error
  | unknownVariable (name : String)
  | encoding (charset : String) (cause : DecodeFault)
  /-- An error that came out of an action. -/
  | execution (action : String) (cause : Error)
  | dictionary (name : String) (fault : DictionaryFault)
  | unknownFunction (name : String)
  | functionArguments (function : String) (fault : ArgumentFault)
  | unknownMatcher (name : String)
  | validation (mismatch : Mismatch)
  | referenceNotFound (name : String) (kind : ReferenceKind)
  | resource (path : String)
  | script (fault : ScriptFault)
  /-- The channel of the endpoint holds as many messages as it can. -/
  | channelFull (endpoint : String) (capacity : Nat)
  | timeout (endpoint : String) (milliseconds : Nat)
  | processing (fault : ProcessingFault)
  | expression (fault : ExpressionFault)
  | config (fault : ConfigFault)
  | aborted (testCase : String)
  deriving DecidableEq, Repr

namespace Error

/-- The error in words. -/
def message : Error → String
  | .unknownVariable name => s!"Unknown variable '{name}'"
  | .encoding charset _ => s!"Unable to decode content with charset '{charset}'"
  | .execution action cause => s!"Action '{action}' failed: " ++ cause.message
  | .dictionary name fault => s!"Data dictionary '{name}' failed: " ++ fault.message
  | .unknownFunction name => s!"Unknown function '{name}'"
  | .functionArguments function fault =>
    s!"Invalid arguments for function '{function}': " ++ fault.message
  | .unknownMatcher name => s!"Unknown validation matcher '{name}'"
  | .validation mismatch => "Validation failed: " ++ mismatch.message
  | .referenceNotFound name kind => s!"Unable to resolve reference '{name}' as " ++ kind.text
  | .resource path => s!"Failed to load resource '{path}'"
  | .script fault => "Script execution failed: " ++ fault.message
  | .channelFull endpoint capacity =>
    s!"Endpoint '{endpoint}' failed: channel is full ({capacity} messages)"
  | .timeout endpoint milliseconds =>
    "Timed out after " ++ Text.durationText milliseconds
      ++ s!" waiting for a message on endpoint '{endpoint}'"
  | .processing fault => "Message processing failed: " ++ fault.message
  | .expression fault => "Invalid expression: " ++ fault.message
  | .config fault => "Configuration error: " ++ fault.message
  | .aborted testCase =>
    s!"Test case '{testCase}' already failed, no further actions are executed"

/-- The error underneath all wrappers. -/
def rootCause : Error → Error
  | .execution _ cause => cause.rootCause
  | e => e

/-- The innermost action that the error came out of. -/
def failedAction? : Error → Option String
  | .execution action cause => some (cause.failedAction?.getD action)
  | _ => none

/-- How many actions the error came out of. -/
def wrapDepth : Error → Nat
  | .execution _ cause => cause.wrapDepth + 1
  | _ => 0

end Error
end Rehearsal
