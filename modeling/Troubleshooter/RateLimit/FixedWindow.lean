import Troubleshooter.Go.Map
import Troubleshooter.Go.Time

namespace Troubleshooter.RateLimit

open Troubleshooter.Go (Map)

structure Bucket where
  start : Go.Time
  count : Int

structure FixedWindow where
  limit : Int
  window : Go.Duration
  buckets : Map String Bucket

def newFixedWindow (limit : Int) (window : Go.Duration) : FixedWindow where
  limit
  window := if window ≤ 0 then Go.Duration.second else window
  buckets := ∅

def FixedWindow.allow (key : String) (now : Go.Time) (l : FixedWindow) : Bool × FixedWindow :=
  if l.limit ≤ 0 ∨ key = "" then (true, l)
  else
    let current := (l.buckets.get? key).getD ⟨0, 0⟩
    if Go.Time.isZero current.start ∨ l.window ≤ Go.Time.sub now current.start then
      (true, { l with buckets := l.buckets.set key ⟨now, 1⟩ })
    else if l.limit ≤ current.count then (false, l)
    else (true, { l with buckets := l.buckets.set key ⟨current.start, current.count + 1⟩ })

end Troubleshooter.RateLimit
