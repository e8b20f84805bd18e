import PingPost.Crypto.Sha256

/-! Message authentication with a secret key, by SHA-256. -/

namespace PingPost.Hmac

/-- A key of the size of a block: longer keys are hashed, shorter ones filled up with zeros. -/
def blockKey (key : List UInt8) : List UInt8 :=
  let k := if Sha256.blockSize < key.length then Sha256.hash key else key
  k ++ List.replicate (Sha256.blockSize - k.length) 0

/-- The code of a message under a key. -/
def code (key message : List UInt8) : List UInt8 :=
  let k := blockKey key
  let inner := Sha256.hash (k.map (· ^^^ 0x36) ++ message)
  Sha256.hash (k.map (· ^^^ 0x5c) ++ inner)

end PingPost.Hmac
