import LinkCharset.DebugText

/-! # Options

What a session is configured with: the charset forced on remote resources, the local charset, and
whether links are encoded in UTF-8. -/
namespace LinkCharset

structure Options where
  encodingRemote : Option String := none
  locale : Option String := none
  enableIri : Bool := false
  deriving DecidableEq, Repr

namespace Options

inductive Setting where
  | encodingRemote (charset : String)
  | locale (charset : String)
  | enableIri (enable : Bool)
  deriving DecidableEq, Repr

def set (o : Options) : Setting → Options
  | .encodingRemote charset => { o with encodingRemote := some charset }
  | .locale charset => { o with locale := some charset }
  | .enableIri enable => { o with enableIri := enable }

/-- The options after settings in order, the last of a kind winning. -/
def ofSettings (settings : List Setting) : Options := settings.foldl set {}

def debugText (o : Options) : String :=
  DebugText.record "IriOptions"
    [("encoding_remote", DebugText.optional o.encodingRemote),
     ("locale", DebugText.optional o.locale),
     ("enable_iri", DebugText.flag o.enableIri)] false

end Options

end LinkCharset
