import Plateau.OutcomeJson

namespace Plateau

open Check (defaulted)

namespace RunnerConfig

/-- Checks the `runner` section; unknown keys are passed over. -/
def ofFields (fs : Fields) : Check RunnerConfig :=
  RunnerConfig.mk <$> defaulted "parallel" false Check.bool fs
    <*> defaulted "max_workers" none (Check.optional (Check.intAtLeast 1)) fs

def ofValue (expected : Expected) (v : Value) : Check RunnerConfig :=
  (Check.record expected v).andThen ofFields

def toValue (c : RunnerConfig) : Value :=
  .record [("parallel", .bool c.parallel),
    ("max_workers", match c.maxWorkers with
      | none => .null
      | some n => .int n)]

end RunnerConfig

structure OutputConfig where
  color : Bool := true
  width : Int := 120
  deriving DecidableEq, Repr

namespace OutputConfig

def leastWidth : Int := 20

def ofFields (fs : Fields) : Check OutputConfig :=
  OutputConfig.mk <$> defaulted "color" true Check.bool fs
    <*> defaulted "width" 120 (Check.intAtLeast leastWidth) fs

def ofValue (expected : Expected) (v : Value) : Check OutputConfig :=
  (Check.record expected v).andThen ofFields

def toValue (c : OutputConfig) : Value :=
  .record [("color", .bool c.color), ("width", .int c.width)]

end OutputConfig

/-- Which form the output takes, and how wide and colorful a console is. -/
structure OutputSettings where
  json : Bool := false
  quiet : Bool := false
  verbose : Bool := false
  color : Bool := true
  width : Option Int := none
  deriving DecidableEq, Repr

namespace OutputSettings

def ofFields (fs : Fields) : Check OutputSettings :=
  OutputSettings.mk <$> defaulted "json_output" false Check.bool fs
    <*> defaulted "quiet" false Check.bool fs
    <*> defaulted "verbose" false Check.bool fs
    <*> defaulted "color" true Check.bool fs
    <*> defaulted "width" none (Check.optional Check.int) fs

def ofValue (expected : Expected) (v : Value) : Check OutputSettings :=
  (Check.record expected v).andThen ofFields

def toValue (s : OutputSettings) : Value :=
  .record [("json_output", .bool s.json), ("quiet", .bool s.quiet), ("verbose", .bool s.verbose),
    ("color", .bool s.color),
    ("width", match s.width with
      | none => .null
      | some n => .int n)]

end OutputSettings

end Plateau
