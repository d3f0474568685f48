import KeyChange.Hash.Keccak
import KeyChange.Curve.Secp256k1

namespace KeyChange

def lastTwenty (digest : Bytes 32) : Bytes 20 :=
  let parts : Bytes (12 + 20) := digest
  parts.back

namespace Ethereum

abbrev Address := Bytes 20

def Address.ofPublicKey (x y : Fin Secp256k1.modulus) : Address :=
  lastTwenty (Keccak.digest (bigEndian 32 x.val ++ bigEndian 32 y.val))

end Ethereum

end KeyChange
