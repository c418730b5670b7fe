namespace FlowGauge.Text

/-- Ranges of codes are inclusive. -/
def inRanges (ranges : Array (Nat × Nat)) (code : Nat) : Bool :=
  ranges.any fun r => r.1 ≤ code && code ≤ r.2

end FlowGauge.Text
