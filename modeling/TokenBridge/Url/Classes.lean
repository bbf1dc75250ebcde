import TokenBridge.Url.Percent

namespace TokenBridge.Url

def notAmong (chars : String) (b : UInt8) : Bool :=
  !(chars.toList.any fun c => c.toNat = b.toNat)

def isPrintable (b : UInt8) : Bool :=
  32 ≤ b && b < 127

def isFragmentPlain (b : UInt8) : Bool :=
  isPrintable b && notAmong " \"<>\x60" b

def isQueryPlain (special : Bool) (b : UInt8) : Bool :=
  isPrintable b && notAmong " \"#<>" b && !(special && b = 39)

def isPathPlain (b : UInt8) : Bool :=
  isFragmentPlain b && notAmong "#?\x7b\x7d" b

def isUserinfoPlain (b : UInt8) : Bool :=
  isPathPlain b && notAmong "/:;=@[\\]^|" b

def isSegmentPlain (special : Bool) (b : UInt8) : Bool :=
  isPathPlain b && notAmong "/%" b && !(special && b = 92)

end TokenBridge.Url
