import Bearer.Digest.Sha256

/-!
# HMAC with SHA-256

A tag that only who knows the key can make. Two tags are compared as they are; they are as long as
a digest.
-/

namespace Bearer.Digest.Hmac

/-- The key as one block: a longer key is digested first. -/
def blockKey (key : List UInt8) : List UInt8 :=
  filled 64 (if 64 < key.length then Sha256.digest key else key)

/-- The tag of a message under a key. -/
def tag (key message : List UInt8) : List UInt8 :=
  let inner := Sha256.digest ((blockKey key).map (· ^^^ 0x36) ++ message)
  Sha256.digest ((blockKey key).map (· ^^^ 0x5c) ++ inner)

@[simp]
theorem length_tag (key message : List UInt8) : (tag key message).length = 32 := rfl

end Bearer.Digest.Hmac
