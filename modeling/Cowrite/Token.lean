import Cowrite.Crypto.Sha256
import Cowrite.Telemetry
import Cowrite.Text.Spelling
import Cowrite.Wire.Field

/-!
# Tokens for anonymous relays

A relay in anonymous mode lets anybody in who shows a well-formed token that has not expired, and
does not check who signed it. So a client mints a token of its own for every connection: a header,
the claims, and a signature under a secret that is thrown away, each in base 64 and joined by
dots. The token goes into the address as a query parameter.
-/

namespace Cowrite

/-- Why there is no token. -/
inductive TokenError where
  | noRandomness
  /-- The clock stands before the beginning of 1970. -/
  | clockBeforeEpoch
  | cannotEncode
  deriving DecidableEq, Repr

namespace TokenError

def report : TokenError → Report
  | .noRandomness =>
      { message := "system random source unavailable", code := some "tandem::auth::random" }
  | .clockBeforeEpoch =>
      { message := "system clock is set before the unix epoch", code := some "tandem::auth::clock" }
  | .cannotEncode =>
      { message := "failed to encode token", code := some "tandem::auth::encode" }

end TokenError

namespace Token

/-- Seconds that a token is good for: one day. -/
def lifetime : Nat := 24 * 60 * 60

/-- The claims of a token; times are in seconds since the beginning of 1970. -/
structure Claims where
  /-- The name to display. -/
  subject : String
  issuedAt : Nat
  expiresAt : Nat
  /-- A random number in base 16, new in every token. -/
  sessionId : String
  deriving DecidableEq, Repr

/-- The header, which names the signature algorithm. -/
def header : String :=
  "\x7b\"alg\":\"HS256\",\"typ\":\"JWT\"\x7d"

/-- The claims in writing. -/
def Claims.render (claims : Claims) : String :=
  "\x7b\"sub\":" ++ Quoted.encode claims.subject ++
  ",\"iat\":" ++ toString claims.issuedAt ++
  ",\"exp\":" ++ toString claims.expiresAt ++
  ",\"sid\":" ++ Quoted.encode claims.sessionId ++ "\x7d"

def segment (bytes : Bytes) : String :=
  String.ofList (Base64.encode bytes)

/-- The claims of a token for `user` at a time in nanoseconds since the beginning of 1970. -/
def claims (user : String) (now : Int) (sessionId : Bytes) : Except TokenError Claims :=
  if now < 0 then .error .clockBeforeEpoch
  else
    let seconds := now.toNat / 1000000000
    .ok { subject := user, issuedAt := seconds, expiresAt := seconds + lifetime
          sessionId := Hex.ofBytes sessionId }

/-- A token for `user`, signed under `secret`. -/
def mint (user : String) (now : Int) (sessionId secret : Bytes) : Except TokenError String :=
  match claims user now sessionId with
  | .error error => .error error
  | .ok claims =>
      let signed := segment (Wire.utf8 header) ++ "." ++ segment (Wire.utf8 claims.render)
      .ok (signed ++ "." ++ segment (Sha256.authenticate secret (Wire.utf8 signed)))

/-- An address with a token as its query parameter. -/
def appendTo (url token : String) : String :=
  url ++ (if url.toList.contains '?' then "&" else "?") ++ "token=" ++ token

end Token

end Cowrite
