import PoolIndexer.Text.Quoted

/-!
Why a transaction cannot be read.
-/
namespace PoolIndexer

inductive ParseError
  | invalidTimestamp (text : String)
  /-- A message of a known kind whose body has another form. -/
  | malformedMessage (kind : String)
  /-- The message that a token transfer carries is not Base64 of JSON. -/
  | invalidHook
  | missingAttribute (action key : String)
  | invalidAmount (text : String)
  | invalidCoin (text : String)
  deriving DecidableEq, Repr

def ParseError.message : ParseError → String
  | .invalidTimestamp text => "invalid block timestamp " ++ Quoted.encode text
  | .malformedMessage kind => "malformed `" ++ kind ++ "` message"
  | .invalidHook => "invalid base64 hook message"
  | .missingAttribute action key =>
    "`" ++ action ++ "` event is missing attribute `" ++ key ++ "`"
  | .invalidAmount text => "invalid amount " ++ Quoted.encode text
  | .invalidCoin text => "invalid coin " ++ Quoted.encode text

end PoolIndexer
