import MachineCloud.Text.Utf8

/-!
# Elliptic curves

The named curves on which keys are recognised, all of them over the numbers modulo a prime.
-/

namespace MachineCloud

/-- The curve `y ^ 2 = x ^ 3 + a * x + b` modulo the prime `p`: the object identifier that names it,
the number of bytes that a coordinate takes, the equation, the coordinates of the generator, and the
order of the group.  The order takes as many bytes as a coordinate. -/
structure Curve where
  identifier : Bytes
  width : Nat
  p : Nat
  a : Nat
  b : Nat
  x : Nat
  y : Nat
  order : Nat
deriving DecidableEq, Repr

namespace Curve

/-- The number with these digits in base `2 ^ 256`, the most significant first. -/
def wide (digits : List Nat) : Nat := digits.foldl (fun n d => n * Nat.pow 2 256 + d) 0

def p192 : Curve where
  identifier := [0x2A, 0x86, 0x48, 0xCE, 0x3D, 0x03, 0x01, 0x01]
  width := 24
  p := 0xfffffffffffffffffffffffffffffffeffffffffffffffff
  a := 0xfffffffffffffffffffffffffffffffefffffffffffffffc
  b := 0x64210519e59c80e70fa7e9ab72243049feb8deecc146b9b1
  x := 0x188da80eb03090f67cbf20eb43a18800f4ff0afd82ff1012
  y := 0x7192b95ffc8da78631011ed6b24cdd573f977a11e794811
  order := 0xffffffffffffffffffffffff99def836146bc9b1b4d22831

def p224 : Curve where
  identifier := [0x2B, 0x81, 0x04, 0x00, 0x21]
  width := 28
  p := 0xffffffffffffffffffffffffffffffff000000000000000000000001
  a := 0xfffffffffffffffffffffffffffffffefffffffffffffffffffffffe
  b := 0xb4050a850c04b3abf54132565044b0b7d7bfd8ba270b39432355ffb4
  x := 0xb70e0cbd6bb4bf7f321390b94a03c1d356c21122343280d6115c1d21
  y := 0xbd376388b5f723fb4c22dfe6cd4375a05a07476444d5819985007e34
  order := 0xffffffffffffffffffffffffffff16a2e0b8f03e13dd29455c5c2a3d

def p256 : Curve where
  identifier := [0x2A, 0x86, 0x48, 0xCE, 0x3D, 0x03, 0x01, 0x07]
  width := 32
  p := 0xffffffff00000001000000000000000000000000ffffffffffffffffffffffff
  a := 0xffffffff00000001000000000000000000000000fffffffffffffffffffffffc
  b := 0x5ac635d8aa3a93e7b3ebbd55769886bc651d06b0cc53b0f63bce3c3e27d2604b
  x := 0x6b17d1f2e12c4247f8bce6e563a440f277037d812deb33a0f4a13945d898c296
  y := 0x4fe342e2fe1a7f9b8ee7eb4a7c0f9e162bce33576b315ececbb6406837bf51f5
  order := 0xffffffff00000000ffffffffffffffffbce6faada7179e84f3b9cac2fc632551

def p384 : Curve where
  identifier := [0x2B, 0x81, 0x04, 0x00, 0x22]
  width := 48
  p := wide [
    0xffffffffffffffffffffffffffffffff,
    0xfffffffffffffffffffffffffffffffeffffffff0000000000000000ffffffff]
  a := wide [
    0xffffffffffffffffffffffffffffffff,
    0xfffffffffffffffffffffffffffffffeffffffff0000000000000000fffffffc]
  b := wide [
    0xb3312fa7e23ee7e4988e056be3f82d19,
    0x181d9c6efe8141120314088f5013875ac656398d8a2ed19d2a85c8edd3ec2aef]
  x := wide [
    0xaa87ca22be8b05378eb1c71ef320ad74,
    0x6e1d3b628ba79b9859f741e082542a385502f25dbf55296c3a545e3872760ab7]
  y := wide [
    0x3617de4a96262c6f5d9e98bf9292dc29,
    0xf8f41dbd289a147ce9da3113b5f0b8c00a60b1ce1d7e819d7a431d7c90ea0e5f]
  order := wide [
    0xffffffffffffffffffffffffffffffff,
    0xffffffffffffffffc7634d81f4372ddf581a0db248b0a77aecec196accc52973]

def p521 : Curve where
  identifier := [0x2B, 0x81, 0x04, 0x00, 0x23]
  width := 66
  p := wide [
    0x1ff,
    0xffffffffffffffffffffffffffffffffffffffffffffffffffffffffffffffff,
    0xffffffffffffffffffffffffffffffffffffffffffffffffffffffffffffffff]
  a := wide [
    0x1ff,
    0xffffffffffffffffffffffffffffffffffffffffffffffffffffffffffffffff,
    0xfffffffffffffffffffffffffffffffffffffffffffffffffffffffffffffffc]
  b := wide [
    0x51,
    0x953eb9618e1c9a1f929a21a0b68540eea2da725b99b315f3b8b489918ef109e1,
    0x56193951ec7e937b1652c0bd3bb1bf073573df883d2c34f1ef451fd46b503f00]
  x := wide [
    0xc6,
    0x858e06b70404e9cd9e3ecb662395b4429c648139053fb521f828af606b4d3dba,
    0xa14b5e77efe75928fe1dc127a2ffa8de3348b3c1856a429bf97e7e31c2e5bd66]
  y := wide [
    0x118,
    0x39296a789a3bc0045c8a5fb42c7d1bd998f54449579b446817afbd17273e662c,
    0x97ee72995ef42640c550b9013fad0761353c7086a272c24088be94769fd16650]
  order := wide [
    0x1ff,
    0xfffffffffffffffffffffffffffffffffffffffffffffffffffffffffffffffa,
    0x51868783bf2f966b7fcc0148f709a5d03bb5c9b8899c47aebb6fb71e91386409]

def secp256k1 : Curve where
  identifier := [0x2B, 0x81, 0x04, 0x00, 0x0A]
  width := 32
  p := 0xfffffffffffffffffffffffffffffffffffffffffffffffffffffffefffffc2f
  a := 0x0
  b := 0x7
  x := 0x79be667ef9dcbbac55a06295ce870b07029bfcdb2dce28d959f2815b16f81798
  y := 0x483ada7726a3c4655da4fbfc0e1108a8fd17b448a68554199c47d08ffb10d4b8
  order := 0xfffffffffffffffffffffffffffffffebaaedce6af48a03bbfd25e8cd0364141

def brainpoolP256r1 : Curve where
  identifier := [0x2B, 0x24, 0x03, 0x03, 0x02, 0x08, 0x01, 0x01, 0x07]
  width := 32
  p := 0xa9fb57dba1eea9bc3e660a909d838d726e3bf623d52620282013481d1f6e5377
  a := 0x7d5a0975fc2c3057eef67530417affe7fb8055c126dc5c6ce94a4b44f330b5d9
  b := 0x26dc5c6ce94a4b44f330b5d9bbd77cbf958416295cf7e1ce6bccdc18ff8c07b6
  x := 0x8bd2aeb9cb7e57cb2c4b482ffc81b7afb9de27e1e3bd23c23a4453bd9ace3262
  y := 0x547ef835c3dac4fd97f8461a14611dc9c27745132ded8e545c1d54c72f046997
  order := 0xa9fb57dba1eea9bc3e660a909d838d718c397aa3b561a6f7901e0e82974856a7

def brainpoolP384r1 : Curve where
  identifier := [0x2B, 0x24, 0x03, 0x03, 0x02, 0x08, 0x01, 0x01, 0x0B]
  width := 48
  p := wide [
    0x8cb91e82a3386d280f5d6f7e50e641df,
    0x152f7109ed5456b412b1da197fb71123acd3a729901d1a71874700133107ec53]
  a := wide [
    0x7bc382c63d8c150c3c72080ace05afa0,
    0xc2bea28e4fb22787139165efba91f90f8aa5814a503ad4eb04a8c7dd22ce2826]
  b := wide [
    0x4a8c7dd22ce28268b39b55416f0447c,
    0x2fb77de107dcd2a62e880ea53eeb62d57cb4390295dbc9943ab78696fa504c11]
  x := wide [
    0x1d1c64f068cf45ffa2a63a81b7c13f6b,
    0x8847a3e77ef14fe3db7fcafe0cbd10e8e826e03436d646aaef87b2e247d4af1e]
  y := wide [
    0x8abe1d7520f9c2a45cb1eb8e95cfd552,
    0x62b70b29feec5864e19c054ff99129280e4646217791811142820341263c5315]
  order := wide [
    0x8cb91e82a3386d280f5d6f7e50e641df,
    0x152f7109ed5456b31f166e6cac0425a7cf3ab6af6b7fc3103b883202e9046565]

def brainpoolP512r1 : Curve where
  identifier := [0x2B, 0x24, 0x03, 0x03, 0x02, 0x08, 0x01, 0x01, 0x0D]
  width := 64
  p := wide [
    0xaadd9db8dbe9c48b3fd4e6ae33c9fc07cb308db3b3c9d20ed6639cca70330871,
    0x7d4d9b009bc66842aecda12ae6a380e62881ff2f2d82c68528aa6056583a48f3]
  a := wide [
    0x7830a3318b603b89e2327145ac234cc594cbdd8d3df91610a83441caea9863bc,
    0x2ded5d5aa8253aa10a2ef1c98b9ac8b57f1117a72bf2c7b9e7c1ac4d77fc94ca]
  b := wide [
    0x3df91610a83441caea9863bc2ded5d5aa8253aa10a2ef1c98b9ac8b57f1117a7,
    0x2bf2c7b9e7c1ac4d77fc94cadc083e67984050b75ebae5dd2809bd638016f723]
  x := wide [
    0x81aee4bdd82ed9645a21322e9c4c6a9385ed9f70b5d916c1b43b62eef4d0098e,
    0xff3b1f78e2d0d48d50d1687b93b97d5f7c6d5047406a5e688b352209bcb9f822]
  y := wide [
    0x7dde385d566332ecc0eabfa9cf7822fdf209f70024a57b1aa000c55b881f8111,
    0xb2dcde494a5f485e5bca4bd88a2763aed1ca2b2fa8f0540678cd1e0f3ad80892]
  order := wide [
    0xaadd9db8dbe9c48b3fd4e6ae33c9fc07cb308db3b3c9d20ed6639cca70330870,
    0x553e5c414ca92619418661197fac10471db1d381085ddaddb58796829ca90069]

def all : List Curve := [p192, p224, p256, p384, p521, secp256k1, brainpoolP256r1,
  brainpoolP384r1, brainpoolP512r1]

def find? (identifier : Bytes) : Option Curve := all.find? fun c => c.identifier = identifier

end Curve

end MachineCloud
