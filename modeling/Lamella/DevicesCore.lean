import Mathlib.Data.List.Infix
import Lamella.HandshakeCore

/-!
The device loops of the NUSB transport: the initial wait for a device, and the watcher that
publishes the route of a device that reconnects.  Both share the set `seen`.  One poll is
one pass of a loop, with everything the outside world answers during it.
-/

namespace Lamella

structure DeviceInfo where
  usbSerialNumber : Option String
  usbManufacturer : Option String
  usbProduct : Option String
deriving DecidableEq

structure UsbInterface where
  interfaceClass : UInt8
  subclass : UInt8
  protocol : UInt8
  interfaceString : Option String

/-- A listed device, what its registration would return, and the handshake it would have. -/
structure UsbDevice where
  info : DeviceInfo
  interfaces : List UsbInterface
  register : Except IoError UInt8
  queries : Fin macQueryRetries → MacAttempt
  state : Option InterfaceState

def coarseDeviceFilter (device : UsbDevice) : Bool :=
  device.interfaces.any fun interface =>
    interface.interfaceClass = 0xFF && interface.subclass = 0xCA && interface.protocol = 0x7D &&
      match interface.interfaceString with
      | some name => name = "ergot"
      | none => true

abbrev Listing := Option (List UsbDevice)

def currentDeviceInfos (listing : Listing) : Option (List DeviceInfo) :=
  listing.map fun devices => (devices.filter coarseDeviceFilter).map UsbDevice.info

/-- ergot's `find_new_devices`: the listed matching devices whose info is not in `seen`. -/
def findNewDevices (seen : List DeviceInfo) (listing : Listing) : List UsbDevice :=
  (listing.getD []).filter fun device => coarseDeviceFilter device && device.info ∉ seen

def registerDevices (seen : List DeviceInfo) :
    List UsbDevice → List DeviceInfo × List (UInt8 × UsbDevice)
  | [] => (seen, [])
  | device :: rest =>
      match device.register with
      | .error _ => registerDevices seen rest
      | .ok ident =>
          let (seen, registered) := registerDevices (seen.insert device.info) rest
          (seen, (ident, device) :: registered)

def retainConnected (listing : Listing) (seen : List DeviceInfo) : List DeviceInfo :=
  match currentDeviceInfos listing with
  | some connected => seen.filter (· ∈ connected)
  | none => seen

def reconcileAndRegisterDevices (seen : List DeviceInfo) (listing : Listing) :
    List DeviceInfo × List (UInt8 × UsbDevice) :=
  let seen := retainConnected listing seen
  registerDevices seen (findNewDevices seen listing)

inductive DevicesPhase
  | initial
  | watching (interfaceId : UInt8) (expectedMac : Mac)
  | returned (result : Except IoError Unit)
deriving DecidableEq

structure Devices where
  phase : DevicesPhase
  seen : List DeviceInfo
  peer : Option Address
  /-- The interfaces that were registered and whose route has not been published since, each
  with the info that `seen` holds for its device.  No loop reads them. -/
  unrouted : List (UInt8 × DeviceInfo)
deriving DecidableEq

def Devices.start : Devices := ⟨.initial, [], none, []⟩

inductive DevicesEvent
  | cancelled
  /-- One pass of a loop; `tap` is the result of creating the TAP interface. -/
  | poll (listing : Listing) (tap : Except IoError Unit)

inductive DevicesOutput
  | queried (info : DeviceInfo) (interface : UInt8)
  | macChanged (expected got : Mac)
  | published (info : DeviceInfo) (peer : Address)
deriving DecidableEq

namespace Devices

def publish (devices : Devices) (interface : UInt8 × DeviceInfo) (peer : Address) : Devices :=
  { devices with peer := some peer, unrouted := devices.unrouted.erase interface }

def initialPoll (devices : Devices) (tap : Except IoError Unit) :
    List (UInt8 × UsbDevice) → Devices × List DevicesOutput
  | [] => (devices, [])
  | (ident, device) :: _ =>
      let queried := DevicesOutput.queried device.info ident
      match queryMacWithRetryNusb device.queries with
      | .error _ => (devices, [queried])
      | .ok mac =>
          match nusbPeerAddress device.state with
          | .error error => ({ devices with phase := .returned (.error error) }, [queried])
          | .ok peer =>
              match tap with
              | .error error => ({ devices with phase := .returned (.error error) }, [queried])
              | .ok () =>
                  ({ devices.publish (ident, device.info) peer with phase := .watching ident mac },
                    [queried, .published device.info peer])

def reconnect (interfaceId : UInt8) (expectedMac : Mac) (devices : Devices)
    (entry : UInt8 × UsbDevice) : Devices × List DevicesOutput :=
  let (ident, device) := entry
  if ident = interfaceId then (devices, [])
  else
    let queried := DevicesOutput.queried device.info ident
    match queryMacWithRetryNusb device.queries with
    | .error _ => (devices, [queried])
    | .ok mac =>
        let changed := if mac ≠ expectedMac then [DevicesOutput.macChanged expectedMac mac] else []
        match nusbPeerAddress device.state with
        | .error _ => (devices, queried :: changed)
        | .ok peer =>
            (devices.publish (ident, device.info) peer,
              queried :: changed ++ [.published device.info peer])

def watcherPoll (interfaceId : UInt8) (expectedMac : Mac) (devices : Devices) :
    List (UInt8 × UsbDevice) → Devices × List DevicesOutput
  | [] => (devices, [])
  | entry :: rest =>
      let (devices, outputs) := devices.reconnect interfaceId expectedMac entry
      let (devices, later) := watcherPoll interfaceId expectedMac devices rest
      (devices, outputs ++ later)

def reconcile (devices : Devices) (listing : Listing) : Devices :=
  let (seen, registered) := reconcileAndRegisterDevices devices.seen listing
  { devices with
    seen
    unrouted :=
      devices.unrouted.filter (fun interface => interface.2 ∈ retainConnected listing devices.seen) ++
        registered.map fun (ident, device) => (ident, device.info) }

def step (devices : Devices) (event : DevicesEvent) : Option (Devices × List DevicesOutput) :=
  match devices.phase, event with
  | .returned _, _ => none
  | _, .cancelled => some ({ devices with phase := .returned (.ok ()) }, [])
  | .initial, .poll listing tap =>
      some ((devices.reconcile listing).initialPoll tap
        (reconcileAndRegisterDevices devices.seen listing).2)
  | .watching interfaceId expectedMac, .poll listing _ =>
      some ((devices.reconcile listing).watcherPoll interfaceId expectedMac
        (reconcileAndRegisterDevices devices.seen listing).2)

end Devices

end Lamella
