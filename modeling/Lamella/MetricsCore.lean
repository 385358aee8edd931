import Lamella.IcdCore

/-!
The counters of `BridgeMetrics`.  The source adds to 64-bit atomics; the model counts in
`Nat`, that is, as long as no counter wraps.  Durations are in milliseconds.
-/

namespace Lamella

structure BridgeMetrics where
  tapRxFrames : Nat := 0
  tapRxBytes : Nat := 0
  tapTxFrames : Nat := 0
  tapTxBytes : Nat := 0
  txRetries : Nat := 0
  rxRetries : Nat := 0
  txStalls : Nat := 0
  txStallMs : Nat := 0
  txStallMaxMs : Nat := 0
  rxStalls : Nat := 0
  rxStallMs : Nat := 0
  rxStallMaxMs : Nat := 0
  endpointErrors : Nat := 0
  responseMismatches : Nat := 0
  tapErrors : Nat := 0
  reconnects : Nat := 0
  recoveryTimeouts : Nat := 0
deriving DecidableEq

namespace BridgeMetrics

def recordTapRx (metrics : BridgeMetrics) (bytes : Nat) : BridgeMetrics :=
  { metrics with
    tapRxFrames := metrics.tapRxFrames + 1
    tapRxBytes := metrics.tapRxBytes + bytes }

def recordTapTx (metrics : BridgeMetrics) (bytes : Nat) : BridgeMetrics :=
  { metrics with
    tapTxFrames := metrics.tapTxFrames + 1
    tapTxBytes := metrics.tapTxBytes + bytes }

def recordTxRetry (metrics : BridgeMetrics) : BridgeMetrics :=
  { metrics with txRetries := metrics.txRetries + 1 }

def recordRxRetry (metrics : BridgeMetrics) : BridgeMetrics :=
  { metrics with rxRetries := metrics.rxRetries + 1 }

def recordTxStall (metrics : BridgeMetrics) (millis : Nat) : BridgeMetrics :=
  { metrics with
    txStalls := metrics.txStalls + 1
    txStallMs := metrics.txStallMs + millis
    txStallMaxMs := max metrics.txStallMaxMs millis }

def recordRxStall (metrics : BridgeMetrics) (millis : Nat) : BridgeMetrics :=
  { metrics with
    rxStalls := metrics.rxStalls + 1
    rxStallMs := metrics.rxStallMs + millis
    rxStallMaxMs := max metrics.rxStallMaxMs millis }

def recordEndpointError (metrics : BridgeMetrics) : BridgeMetrics :=
  { metrics with endpointErrors := metrics.endpointErrors + 1 }

def recordResponseMismatch (metrics : BridgeMetrics) : BridgeMetrics :=
  { metrics with responseMismatches := metrics.responseMismatches + 1 }

def recordTapError (metrics : BridgeMetrics) : BridgeMetrics :=
  { metrics with tapErrors := metrics.tapErrors + 1 }

def recordReconnect (metrics : BridgeMetrics) : BridgeMetrics :=
  { metrics with reconnects := metrics.reconnects + 1 }

def recordRecoveryTimeout (metrics : BridgeMetrics) : BridgeMetrics :=
  { metrics with recoveryTimeouts := metrics.recoveryTimeouts + 1 }

def recordRetry (metrics : BridgeMetrics) : Direction → BridgeMetrics
  | .tx => metrics.recordTxRetry
  | .rx => metrics.recordRxRetry

def recordStall (metrics : BridgeMetrics) (direction : Direction) (millis : Nat) : BridgeMetrics :=
  match direction with
  | .tx => metrics.recordTxStall millis
  | .rx => metrics.recordRxStall millis

end BridgeMetrics

end Lamella
