import UsageBilling.Digest.Sha256
/-!
Message authentication with SHA-256 (RFC 2104). A key longer than a block is hashed first.
-/
namespace UsageBilling.Digest

def blockSize : Nat := 64

def keyBlock (key : List UInt8) : List UInt8 :=
  let key := if key.length > blockSize then sha256 key else key
  key ++ List.replicate (blockSize - key.length) 0

def hmacSha256 (key message : List UInt8) : List UInt8 :=
  let block := keyBlock key
  sha256 (block.map (· ^^^ 0x5c) ++ sha256 (block.map (· ^^^ 0x36) ++ message))

end UsageBilling.Digest
