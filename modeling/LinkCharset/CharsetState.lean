import LinkCharset.DebugText

/-! # Charset state

The charset of the resource just fetched, the one that applies to the links found in it, and the
two flags that say how links are encoded. -/
namespace LinkCharset

structure CharsetState where
  remote : Option String := none
  current : Option String := none
  utf8Encode : Bool := false
  uglyNoEncode : Bool := false
  deriving DecidableEq, Repr

namespace CharsetState

inductive Change where
  | setRemote (charset : Option String)
  | setCurrent (charset : Option String)
  | remoteAsCurrent
  | setUtf8Encode (encode : Bool)
  | setUglyNoEncode (ugly : Bool)
  deriving DecidableEq, Repr

def apply (s : CharsetState) : Change → CharsetState
  | .setRemote charset => { s with remote := charset }
  | .setCurrent charset => { s with current := charset }
  | .remoteAsCurrent => { s with remote := s.current }
  | .setUtf8Encode encode => { s with utf8Encode := encode }
  | .setUglyNoEncode ugly => { s with uglyNoEncode := ugly }

def debugText (s : CharsetState) : String :=
  DebugText.record "CharsetState"
    [("remote", DebugText.optional s.remote), ("current", DebugText.optional s.current),
     ("utf8_encode", DebugText.flag s.utf8Encode),
     ("ugly_no_encode", DebugText.flag s.uglyNoEncode)] false

end CharsetState

end LinkCharset
