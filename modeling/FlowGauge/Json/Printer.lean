import FlowGauge.Decimal.Notation
import FlowGauge.Json.Text
import FlowGauge.Json.Value

namespace FlowGauge.Json

def writtenFloat (x : Float) : List Char :=
  (Decimal.Notation.document.write x).toList

mutual

def written : Json → List Char
  | null => "null".toList
  | bool b => if b then "true".toList else "false".toList
  | integer n => (toString n).toList
  | float x => writtenFloat x
  | text s => writtenText s
  | list items => '[' :: writtenItems items ++ [']']
  | object entries => '\x7b' :: writtenEntries entries ++ ['\x7d']

def writtenItems : List Json → List Char
  | [] => []
  | v :: rest => written v ++ writtenMoreItems rest

def writtenMoreItems : List Json → List Char
  | [] => []
  | v :: rest => ',' :: written v ++ writtenMoreItems rest

def writtenEntries : List (String × Json) → List Char
  | [] => []
  | (k, v) :: rest => writtenText k ++ ':' :: written v ++ writtenMoreEntries rest

def writtenMoreEntries : List (String × Json) → List Char
  | [] => []
  | (k, v) :: rest => ',' :: writtenText k ++ ':' :: written v ++ writtenMoreEntries rest

end

def render (v : Json) : String :=
  String.ofList v.written

end FlowGauge.Json
