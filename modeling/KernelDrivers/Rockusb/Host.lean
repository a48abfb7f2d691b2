import KernelDrivers.Rockusb.Loop

/-!
# Environments of concrete runs

The packet of a command wrapper, the state in which such a packet has just
been reported to a freshly configured loop, and a storage that only reads.
-/

namespace KernelDrivers.Rockusb

open KernelDrivers.Library

variable {σ : Type}

/-- The four bytes of a 32-bit number, most significant first. -/
def be32Bytes (value : Nat) : List UInt8 :=
  be16Bytes (value / 65536) ++ be16Bytes value

/-- The 31 bytes of a wrapper with signature 'USBC' and the given command
byte, `CDB[1]`, address and number of sectors. -/
def cbwPacket (tag dataTransferLength : Nat) (opcode subCode : UInt8)
    (lba nsectors : Nat) : List UInt8 :=
  le32Bytes 0x43425355 ++ le32Bytes tag ++ le32Bytes dataTransferLength ++
    [0, 0, 10, opcode, subCode] ++ be32Bytes lba ++ [0] ++
    be16Bytes nsectors ++ List.replicate 7 0

/-- The loop after `DEVICE_CONFIGURED`, with one OUT transfer posted. -/
def configuredMachine (rx tx : Fin 2 → Memory) (platform : σ) : Machine σ :=
  rkusbEventHandlerForDwc3 (startMachine .sendInProgress rx tx platform) 2

/-- The loop when a first packet has been reported. -/
def receivedMachine (packet : List UInt8) (platform : σ) : Machine σ :=
  completeOut (configuredMachine (fun _ _ => 0) (fun _ _ => 0) platform) 0
    ⟨0, 31⟩ 0 packet

/-- A storage that reads `media` in both address spaces and ignores every
other call; `lock` is its secure-boot lock. -/
def readOnlyStorage (lock : Nat) (media : Memory) : Platform Unit :=
  { reply := fun _ call =>
      match call with
      | .storageReadLba lba blocks =>
          ⟨0, blocks * 512, fun offset => media (lba * 512 + offset)⟩
      | .storageReadPba lba blocks =>
          ⟨0, blocks * 528, fun offset => media (lba * 528 + offset)⟩
      | _ => ⟨0, 0, fun _ => 0⟩
    next := fun _ _ => ()
    secureBootLock := fun _ => lock
    ftlOk := 0 }

end KernelDrivers.Rockusb
