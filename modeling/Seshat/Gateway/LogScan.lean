import Seshat.Config.Schema
import Seshat.Lib.Infix
import Seshat.Report.Csv
import Mathlib.Tactic.Common

/-! Effective-protocol detection: what the gateway logs reveal about a run. -/

namespace Seshat.Gateway
open Config (trim asciiLower)
open Report (Text lines linesFrom stripCr)
open Lib.Infix

structure Effective where
  kernelRequested : Bool := false
  kernelActive : Bool := false
  versionDowngrade : Option Text := none
  resumedHandshakes : Nat := 0
  fullHandshakes : Nat := 0
  notes : List Text := []
  deriving DecidableEq, Repr

/-- `haystack.contains(word)` -/
def contains (haystack : Text) (word : String) : Bool := decide (word.toList <:+: haystack)

def ktlsInactiveMarkers : List String :=
  ["ktls not active", "ktls may not be active", "active=false"]

/-- What the scan has gathered so far. -/
structure Scan where
  inactive : Bool := false
  notes : List Text := []
  resumedHandshakes : Nat := 0
  fullHandshakes : Nat := 0
  deriving DecidableEq, Repr

/-- The resumption marker of an accepted handshake. -/
def Scan.handshake (scan : Scan) (low : Text) : Scan :=
  if contains low "resumed=true" then
    { scan with resumedHandshakes := scan.resumedHandshakes + 1 }
  else if contains low "resumed=false" then
    { scan with fullHandshakes := scan.fullHandshakes + 1 }
  else scan

def Scan.line (scan : Scan) (line : Text) : Scan :=
  let low := asciiLower line
  let scan := scan.handshake low
  if ktlsInactiveMarkers.any (contains low) then
    { scan with inactive := true, notes := scan.notes ++ [trim line] }
  else if contains low "error" &&
      (contains low "dtls" || contains low "ktls" || contains low "handshake") then
    { scan with notes := scan.notes ++ [trim line] }
  else scan

/-- A log that cannot be read is `none`. -/
def Scan.log (scan : Scan) : Option Text → Scan
  | none => scan
  | some text => (lines text).foldl Scan.line scan

def scanEffective (logs : List (Option Text)) (kernelRequested : Bool) : Effective :=
  let scan := logs.foldl Scan.log {}
  { kernelRequested
    kernelActive := kernelRequested && !scan.inactive
    versionDowngrade := none
    resumedHandshakes := scan.resumedHandshakes
    fullHandshakes := scan.fullHandshakes
    notes := scan.notes }

/-- `text.replacen(old, new, 1)`, for a non-empty `old`. -/
def replaceFirst (old new : Text) : Text → Text
  | [] => []
  | c :: rest =>
      if old <+: c :: rest then new ++ (c :: rest).drop old.length
      else c :: replaceFirst old new rest

def effectiveProtocolLabel (configured : Text) (eff : Effective) : Text :=
  if eff.kernelRequested ∧ eff.kernelActive = false then
    replaceFirst "ktls".toList "tls".toList configured ++ " (ktls->userspace)".toList
  else
    match eff.versionDowngrade with
    | some downgrade => configured ++ " (".toList ++ downgrade ++ ")".toList
    | none => configured

/-! A marker is found in a line exactly when it occurs in the log. -/

/-- A kTLS-inactive marker occurs in the text, in any case of its letters. -/
def MarkerOccurs (text : Text) : Prop :=
  ∃ marker ∈ ktlsInactiveMarkers, marker.toList <:+: asciiLower text

end Seshat.Gateway
