import ContractReview.Failure
import ContractReview.Json.Literal
import ContractReview.Number.Numeral
import ContractReview.Text.Quoted
import ContractReview.Text.Utf8

/-!
What can go wrong below a review: errors of the system and of model providers, data of the wrong
shape, and settings that cannot hold. Each has the name of its kind and a text.
-/

namespace ContractReview

/-- Errors that the surroundings raise with a text of their own. -/
inductive ErrorKind
  | exception | runtime | value | type | key | index | os | fileNotFound | permission | timeout
  | connection
deriving DecidableEq, Repr

namespace ErrorKind

def all : List ErrorKind :=
  [.exception, .runtime, .value, .type, .key, .index, .os, .fileNotFound, .permission, .timeout,
   .connection]

def name : ErrorKind → String
  | .exception => "Exception"
  | .runtime => "RuntimeError"
  | .value => "ValueError"
  | .type => "TypeError"
  | .key => "KeyError"
  | .index => "IndexError"
  | .os => "OSError"
  | .fileNotFound => "FileNotFoundError"
  | .permission => "PermissionError"
  | .timeout => "TimeoutError"
  | .connection => "ConnectionError"

def ofName? (s : String) : Option ErrorKind := all.find? (·.name = s)

end ErrorKind

/-- Errors that a model provider answers with. -/
inductive ProviderError
  | rateLimit | api | authentication | internalServer | badRequest | permissionDenied | notFound
  | conflict | unprocessable | status | invalidAnswer | connection | timeout
deriving DecidableEq, Repr

namespace ProviderError

def all : List ProviderError :=
  [.rateLimit, .api, .authentication, .internalServer, .badRequest, .permissionDenied, .notFound,
   .conflict, .unprocessable, .status, .invalidAnswer, .connection, .timeout]

def name : ProviderError → String
  | .rateLimit => "RateLimitError"
  | .api => "APIError"
  | .authentication => "AuthenticationError"
  | .internalServer => "InternalServerError"
  | .badRequest => "BadRequestError"
  | .permissionDenied => "PermissionDeniedError"
  | .notFound => "NotFoundError"
  | .conflict => "ConflictError"
  | .unprocessable => "UnprocessableEntityError"
  | .status => "APIStatusError"
  | .invalidAnswer => "APIResponseValidationError"
  | .connection => "APIConnectionError"
  | .timeout => "APITimeoutError"

def ofName? (s : String) : Option ProviderError := all.find? (·.name = s)

end ProviderError

inductive Fault
  | raised (kind : ErrorKind) (message : String)
  | provider (kind : ProviderError) (message : String)
  | platform (failure : Failure)
  /-- A field is looked up in a value that is no object. -/
  | noFields (kind : Json.Kind)
  /-- An item is looked up in a value that has none. -/
  | noItems (kind : Json.Kind)
  | noFirstItem
  | emptyText
  | notIterable (kind : Json.Kind)
  /-- A value that cannot be a name. -/
  | unhashable (kind : Json.Kind)
  | misread (why : Numeral.Misread)
  | notNumeric (kind : Json.Kind)
  | nanToWhole
  | infinityToWhole
  | wholeTooLarge
  | nullByte
  | notAMember (value : Json) (scale : String)
  | unknownPlatform (id : String)
  | thresholdOutside
  | noRequestsAllowed
  | noResponses
  | keyMissing (service : String)
  /-- A provider's answer lacks a part that it has to have. -/
  | badAnswer (service : String) (detail : String)
  | noAttribute (owner : String) (name : String)
  | notSubscriptable (owner : String)
  | listIndex
  | badIndex (owner : String) (kind : String)
  | retriesExceeded (retries : Int) (last : Fault)
  | undecodable (why : Text.Malformed)
  /-- A value that no part of a table can show. -/
  | notShowable (kind : Json.Kind)
  | badFormat (format : String)
  | formatNotText (kind : Json.Kind)
  | pathNotText (kind : Json.Kind)

namespace Fault

def octetText (n : Nat) : String := "0x" ++ String.ofList (Text.hexDigits 2 n)

def malformedText : Text.Malformed → String
  | .start place octet =>
      "'utf-8' codec can't decode byte " ++ octetText octet ++ " in position " ++ toString place ++
        ": invalid start byte"
  | .continuation place octet width =>
      if width = 1 then
        "'utf-8' codec can't decode byte " ++ octetText octet ++ " in position " ++
          toString place ++ ": invalid continuation byte"
      else
        "'utf-8' codec can't decode bytes in position " ++ toString place ++ "-" ++
          toString (place + width - 1) ++ ": invalid continuation byte"
  | .cutOff place octet width =>
      if width = 1 then
        "'utf-8' codec can't decode byte " ++ octetText octet ++ " in position " ++
          toString place ++ ": unexpected end of data"
      else
        "'utf-8' codec can't decode bytes in position " ++ toString place ++ "-" ++
          toString (place + width - 1) ++ ": unexpected end of data"

/-- The name of the kind of error. -/
def name : Fault → String
  | .raised kind _ => kind.name
  | .provider kind _ => kind.name
  | .platform _ => "PlatformError"
  | .noFields _ | .noAttribute .. => "AttributeError"
  | .noItems _ | .notIterable _ | .unhashable _ | .notNumeric _ | .notSubscriptable _
  | .badIndex .. | .formatNotText _ | .pathNotText _ => "TypeError"
  | .noFirstItem | .unknownPlatform _ => "KeyError"
  | .emptyText | .listIndex => "IndexError"
  | .infinityToWhole | .wholeTooLarge => "OverflowError"
  | .misread _ | .nanToWhole | .nullByte | .notAMember .. | .thresholdOutside | .noRequestsAllowed
  | .noResponses | .keyMissing _ | .badAnswer .. | .badFormat _ => "ValueError"
  | .retriesExceeded .. => "MaxRetryError"
  | .undecodable _ => "UnicodeDecodeError"
  | .notShowable _ => "NotRenderableError"

def text : Fault → String
  | .raised .key message => if message = "" then "" else Text.quoted message
  | .raised _ message => message
  | .provider .timeout _ => "Request timed out."
  | .provider _ message => message
  | .platform failure => failure.text
  | .noFields kind => "'" ++ kind.name ++ "' object has no attribute 'get'"
  | .noItems kind => "'" ++ kind.name ++ "' object is not subscriptable"
  | .noFirstItem => "0"
  | .emptyText => "string index out of range"
  | .notIterable kind => "'" ++ kind.name ++ "' object is not iterable"
  | .unhashable kind => "unhashable type: '" ++ kind.name ++ "'"
  | .misread why => why.text
  | .notNumeric kind =>
      "int() argument must be a string, a bytes-like object or a real number, not '" ++ kind.name ++
        "'"
  | .nanToWhole => "cannot convert float NaN to integer"
  | .infinityToWhole => "cannot convert float infinity to integer"
  | .wholeTooLarge => "int too large to convert to float"
  | .nullByte => "embedded null byte"
  | .notAMember value scale => value.literal ++ " is not a valid " ++ scale
  | .unknownPlatform id => Text.quoted ("Unknown platform: " ++ id)
  | .thresholdOutside => "ensemble_threshold must be between 0 and 1"
  | .noRequestsAllowed => "max_requests must be at least 1"
  | .noResponses => "combine_responses needs at least one response"
  | .keyMissing service =>
      service ++ " API key not provided and not found in environment variables."
  | .badAnswer service detail => "Invalid response structure from " ++ service ++ ": " ++ detail
  | .noAttribute owner name => "'" ++ owner ++ "' object has no attribute '" ++ name ++ "'"
  | .notSubscriptable owner => "'" ++ owner ++ "' object is not subscriptable"
  | .listIndex => "list index out of range"
  | .badIndex owner kind => owner ++ " indices must be integers, not '" ++ kind ++ "'"
  | .retriesExceeded retries last =>
      "Max retries (" ++ toString retries ++ ") exceeded. Last error: " ++ last.text
  | .undecodable why => malformedText why
  | .notShowable kind =>
      "unable to render " ++ kind.name ++ "; a string or other renderable object is required"
  | .badFormat format => "Invalid format '" ++ format ++ "' for '%' style"
  | .formatNotText kind => "expected string or bytes-like object, got '" ++ kind.name ++ "'"
  | .pathNotText kind => "expected str, bytes or os.PathLike object, not " ++ kind.name

/-- A fault as a failure of the platform; a failure stays as it is. -/
def asFailure (platform : String) : Fault → Failure
  | .platform failure => failure
  | fault =>
      { code := .unavailable
        message := if fault.text = "" then fault.name else fault.text
        platform
        context := [("error_type", .str fault.name)] }

/-- A tool's fault as a failure of the platform, told by its text. -/
def ofTool (tool platform : String) (context : List (String × Json)) : Fault → Failure
  | .platform failure => failure
  | fault =>
      Failure.ofToolText tool fault.text (fault matches .raised .fileNotFound _) platform context

end Fault

end ContractReview
