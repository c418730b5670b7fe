import FlowGauge.Json.Printer
import FlowGauge.NodeKind
import FlowGauge.Scalar

/-! The summary of one observation window: what the node was described as, and what was measured.

A summary has three views: `get?` looks up one key, `entries` is the order in which a summary is
written, and `document` is the flat document with its keys in order. -/
namespace FlowGauge

/-- Entries with their keys in increasing order. -/
abbrev Description := List (String × Scalar)

/-- `value` under `key`, in place of what was there. -/
def putSorted {α : Type} (key : String) (value : α) : List (String × α) → List (String × α)
  | [] => [(key, value)]
  | (k, v) :: rest =>
    if key < k then (key, value) :: (k, v) :: rest
    else if key = k then (key, value) :: rest
    else (k, v) :: putSorted key value rest

structure Summary where
  description : Description
  tupleWidthIn : Int64
  tupleWidthOut : Int64
  inputRate : Option Float
  outputRate : Option Float
  realSelectivity : Option Float
  deriving BEq

namespace Summary

def idKey : String := "id"
def tupleWidthInKey : String := "tupleWidthIn"
def tupleWidthOutKey : String := "tupleWidthOut"
def inputRateKey : String := "inputRate"
def outputRateKey : String := "outputRate"
def realSelectivityKey : String := "realSelectivity"

/-- The keys of what is measured, which a description cannot use. -/
def reservedKeys : List String :=
  [tupleWidthInKey, tupleWidthOutKey, inputRateKey, outputRateKey, realSelectivityKey]

/-- Of equal keys the last one wins. -/
def describe (seed : List (String × Scalar)) : Description :=
  (seed.filter fun e => !reservedKeys.contains e.1).foldl (fun d e => putSorted e.1 e.2 d) []

def new (seed : List (String × Scalar)) (kind : NodeKind) : Summary where
  description := describe seed
  tupleWidthIn := -1
  tupleWidthOut := -1
  inputRate := none
  outputRate := none
  realSelectivity := if kind.hasSelectivity then some 0 else none

/-- The node's identifier, unless it is null. -/
def id? (s : Summary) : Option Scalar :=
  (s.description.lookup idKey).filter fun v => !v.isNull

def get? (s : Summary) (key : String) : Option Scalar :=
  if key = tupleWidthInKey then some (.integer s.tupleWidthIn)
  else if key = tupleWidthOutKey then some (.integer s.tupleWidthOut)
  else if key = inputRateKey then s.inputRate.map .float
  else if key = outputRateKey then s.outputRate.map .float
  else if key = realSelectivityKey then s.realSelectivity.map .float
  else s.description.lookup key

def measured? (key : String) (x : Option Float) : List (String × Scalar) :=
  match x with
  | some x => [(key, .float x)]
  | none => []

/-- What was measured, as far as it is known. -/
def measured (s : Summary) : List (String × Scalar) :=
  [(tupleWidthInKey, .integer s.tupleWidthIn), (tupleWidthOutKey, .integer s.tupleWidthOut)] ++
    measured? inputRateKey s.inputRate ++ measured? outputRateKey s.outputRate ++
    measured? realSelectivityKey s.realSelectivity

/-- The description comes first. -/
def entries (s : Summary) : List (String × Scalar) :=
  s.description ++ s.measured

def json (s : Summary) : Json :=
  .object (s.entries.map fun e => (e.1, e.2.json))

def document (s : Summary) : List (String × Json) :=
  s.measured.foldl (fun d e => putSorted e.1 e.2.json d)
    (s.description.map fun e => (e.1, e.2.json))

end Summary

end FlowGauge
