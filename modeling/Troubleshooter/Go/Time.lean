import Mathlib.Algebra.Group.Int.Defs
import Mathlib.Algebra.Group.Nat.Defs
import Mathlib.Data.Int.Notation

namespace Troubleshooter.Go

-- Nanoseconds since the zero time; a clock never answers the zero time itself.
abbrev Time := Int

-- Nanoseconds in an int64.
abbrev Duration := Int

def wrap64 (value : Int) : Int := value.bmod (2 ^ 64)

namespace Duration

def millisecond : Duration := 1000000
def second : Duration := 1000000000
def minute : Duration := 60 * second

-- time.Duration(count) * unit wraps as int64 does.
def times (count : Int) (unit : Duration) : Duration := wrap64 (count * unit)

def milliseconds (duration : Duration) : Int := duration.tdiv millisecond

end Duration

namespace Time

def isZero (time : Time) : Bool := time == 0

def before (first second : Time) : Bool := first < second

-- t.Sub(u) saturates at the ends of the int64 range.
def sub (later earlier : Time) : Duration := max (-2 ^ 63) (min (later - earlier) (2 ^ 63 - 1))

end Time

end Troubleshooter.Go
