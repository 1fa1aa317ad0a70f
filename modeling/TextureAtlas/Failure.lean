import TextureAtlas.Geometry.Span
import TextureAtlas.Label.FragmentId
import TextureAtlas.Text.Quoted

/-! # Failures

An operation ends early for one of two reasons. An `Error` is an answer: the request is malformed or
there is no room for it, and the caller is expected to go on. A `Fault` is a broken promise of the
caller or of a representation: a span that nobody holds, a label that clashes, a number outside its
range. Each has one wording. -/
set_option autoImplicit false

namespace TextureAtlas

inductive ArgumentError
  | emptySpan
  | emptyFragment
  | narrowStride
  | shortBuffer
  | pageSizeOutOfRange
  | fragmentTooLarge
deriving DecidableEq, Repr

def ArgumentError.message : ArgumentError → String
  | emptySpan => "span width must be positive"
  | emptyFragment => "fragment width and height must be positive"
  | narrowStride => "stride must not be smaller than width"
  | shortBuffer => "pixel buffer is too short"
  | pageSizeOutOfRange => "map size is out of range"
  | fragmentTooLarge => "fragment is too large for a map"

inductive SettingsError
  | notPowerOfTwo
  | tooLarge
deriving DecidableEq, Repr

def SettingsError.message : SettingsError → String
  | notPowerOfTwo => "default map size must be a power of two"
  | tooLarge => "default map size exceeds the largest map size"

inductive Error
  | outOfSpace
  | pageLimitReached
  | invalidArgument (cause : ArgumentError)
  | invalidSettings (cause : SettingsError)
deriving DecidableEq, Repr

def Error.message : Error → String
  | outOfSpace => "not enough space left"
  | pageLimitReached => "fragment allocation failed: map limit reached"
  | invalidArgument cause => "invalid argument: " ++ cause.message
  | invalidSettings cause => "invalid atlas settings: " ++ cause.message

inductive Fault
  /-- A coordinate, a length or a position in a buffer is outside its range. -/
  | overflow
  /-- A buffer has no texel there. -/
  | outOfBounds
  /-- The span is released but was not handed out, or is free again. -/
  | notAllocated (span : Span)
  | noSuchRow (row : Nat)
  | noSuchPage (page : Nat)
  /-- Two labels claim one id, `known` first. -/
  | collision (id : FragmentId) (known label : String)
deriving DecidableEq, Repr

def Fault.message : Fault → String
  | overflow => "number out of range"
  | outOfBounds => "texel out of bounds"
  | notAllocated span => span.text ++ " is not allocated here"
  | noSuchRow row => s!"row {row} does not exist"
  | noSuchPage page => s!"map {page} does not exist"
  | collision id known label =>
    id.text ++ " collides: " ++ Text.quoted known ++ " and " ++ Text.quoted label ++
      " hash to the same id"

inductive Failure
  | rejected (error : Error)
  | fault (fault : Fault)
deriving DecidableEq, Repr

end TextureAtlas
