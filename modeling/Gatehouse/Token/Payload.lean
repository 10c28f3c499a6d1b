import Gatehouse.Token.Envelope

namespace Gatehouse

open Json (Value Decoder Fields)

structure Return where
  uri : String
  deriving DecidableEq, Repr

/-- A session to be installed, and where to go then; nowhere if that is empty. -/
structure Installation where
  sessionId : SessionId
  expiresAt : Instant
  redirectUrl : String := ""
  deriving DecidableEq, Repr

namespace Wire

def returnTo (r : Return) : Value := .object [("uri", .text r.uri)]

def readReturn : Decoder Return :=
  ((Fields.required "uri" Decoder.text).map .mk).record "struct RedirectToken"

def installation (i : Installation) : Value := .object [
  ("session_id", sessionId i.sessionId),
  ("session_expires_at", stamp i.expiresAt),
  ("redirect_url", .text i.redirectUrl)]

def readInstallation : Decoder Installation :=
  ((((Fields.required "session_id" readSessionId).and
    (.required "session_expires_at" readStamp)).and
    (.withDefault "redirect_url" Decoder.text "")).map
    fun ((id, expiresAt), url) ↦ Installation.mk id expiresAt url).record "struct SetCookieRequest"

end Wire

namespace Token

def returns : PayloadKind Return where
  name := "portcullis.RedirectToken"
  maxAge := Instant.minutes 5
  encode r := .ok (Wire.returnTo r)
  decode := Wire.readReturn

def installations : PayloadKind Installation where
  name := "portcullis.SetCookieRequest"
  maxAge := Instant.minutes 1
  encode i := .ok (Wire.installation i)
  decode := Wire.readInstallation

end Token

end Gatehouse
