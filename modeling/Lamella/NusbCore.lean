import Lamella.DevicesCore

/-!
The NUSB transport: the device loops and the exchange they start, joined by the watch
channel.  An attempt of the exchange takes its peer from the channel when it begins.
-/

namespace Lamella

structure Nusb where
  devices : Devices
  exchange : Exchange
  /-- Where the requests of the current attempt were sent.  No task reads this. -/
  primaryPeer : Option Address
  backupPeer : Option Address
deriving DecidableEq

def Nusb.requestPeer (nusb : Nusb) : ResponseSource → Option Address
  | .primary => nusb.primaryPeer
  | .backup => nusb.backupPeer

/-- Before the first device is found there is no exchange. -/
def Nusb.start : Nusb :=
  ⟨Devices.start, ⟨0, 0, .returned .cancelled, .default, {}⟩, none, none⟩

inductive NusbEvent
  /-- A pass of the device loops; `session` is the id of an exchange it starts. -/
  | devices (event : DevicesEvent) (session : UInt64)
  | exchange (event : ExchangeEvent)

inductive NusbOutput
  | devices (output : DevicesOutput)
  | exchange (output : ExchangeOutput)
deriving DecidableEq

def DevicesOutput.isPublished : DevicesOutput → Bool
  | .published _ _ => true
  | .queried _ _ | .macChanged _ _ => false

def Nusb.exchangeAfter (nusb : Nusb) (next : Devices) (outputs : List DevicesOutput)
    (session : UInt64) : Exchange :=
  match nusb.devices.phase, next.phase with
  | .initial, .watching _ _ => ⟨session, 0, .tryRecv, .default, nusb.exchange.metrics⟩
  | .initial, _ => nusb.exchange
  | _, _ =>
      { nusb.exchange with
        metrics := Nat.repeat BridgeMetrics.recordReconnect
          (outputs.countP DevicesOutput.isPublished) nusb.exchange.metrics }

/-- An attempt begins with the published address. -/
def Nusb.permits (nusb : Nusb) : ExchangeEvent → Bool
  | .attempt _ peer => nusb.devices.peer = some peer
  | _ => true

def Nusb.absorb (nusb : Nusb) : ExchangeOutput → Nusb
  | .requested _ peer .primary _ => { nusb with primaryPeer := some peer, backupPeer := none }
  | .requested _ peer .backup _ => { nusb with backupPeer := some peer }
  | _ => nusb

def Nusb.step (nusb : Nusb) : NusbEvent → Option (Nusb × List NusbOutput)
  | .devices event session =>
      match nusb.devices.step event with
      | none => none
      | some (devices, outputs) =>
          let exchange := nusb.exchangeAfter devices outputs session
          some ({ nusb with devices, exchange }, outputs.map .devices)
  | .exchange event =>
      if nusb.permits event then
        match wifiExchange none nusb.exchange event with
        | none => none
        | some (exchange, outputs) =>
            some (outputs.foldl Nusb.absorb { nusb with exchange }, outputs.map .exchange)
      else none

end Lamella
