import SatClient.Document
/-!
Statistics of a problem: how long its clauses are, and which share of its literals is positive.
Means and shares are exact; a share of no literals is one half.
-/

namespace SatClient

open SatClient.Decimal

structure Statistics where
  variableCount : Nat
  clauseCount : Nat
  shortest : Nat
  mean : Rat
  longest : Nat
  positiveShare : Rat
  histogram : List Nat
  overflow : Nat
  deriving DecidableEq

namespace Statistics

def longestCounted : Nat := 10

def literals (d : Document) : List Int :=
  d.clauses.flatten

def lengths (d : Document) : List Nat :=
  d.clauses.map List.length

def share (part whole : Nat) : Rat :=
  if whole = 0 then 1 / 2 else (part : Rat) / whole

def ofDocument (d : Document) : Statistics where
  variableCount := d.variableCount
  clauseCount := d.clauses.length
  shortest := (lengths d).min?.getD 0
  mean := ((literals d).length : Rat) / d.clauses.length
  longest := (lengths d).max?.getD 0
  positiveShare := share ((literals d).countP (0 < ·)) (literals d).length
  histogram := (List.range (longestCounted + 1)).map fun length => (lengths d).count length
  overflow := (lengths d).countP (longestCounted < ·)

def shownRat (r : Rat) : String :=
  (Binary64.ofRat r).text

def entry (name value : String) : String :=
  name ++ ": " ++ value

def braces (entries : List String) : String :=
  "\x7b" ++ String.intercalate ", " entries ++ "\x7d"

def shown (s : Statistics) : String :=
  let buckets := (List.range s.histogram.length).zip s.histogram
  braces
    [entry "'n_vars'" (toString s.variableCount),
     entry "'n_clauses'" (toString s.clauseCount),
     entry "'clause_len'"
      (braces
        [entry "'min'" (toString s.shortest),
         entry "'mean'" (shownRat s.mean),
         entry "'max'" (toString s.longest)]),
     entry "'polarity_ratio'" (shownRat s.positiveShare),
     entry "'clause_size_histogram'"
      (braces
        (buckets.map (fun (length, count) => entry (toString length) (toString count)) ++
          [entry "'overflow'" (toString s.overflow)]))]

end Statistics

end SatClient
