/-
**Failures.**

Two kinds of failure are kept apart:

* an `Error` is an answer: the operation was carried out and reports what it found wrong. Its text
  is `Error.message`.
* a `Breach` is the absence of an answer: the caller broke what the operation relies on, and nothing
  can be said about the result.
-/

import Downlink.Bytes
import Downlink.Text.Quoted

namespace Downlink

/-- What is wrong with a frame layout. -/
inductive LayoutFault
  | shortHeader (headerLength : Nat)
  | shortPointerField
  | noPacketZone (frameLength overhead : Nat)
  deriving DecidableEq, Repr

/-- Why a conversion has no value for a raw value. -/
inductive ConversionFault
  | textNotNumeric (text : String)
  | bytesNotNumeric (bytes : Bytes)
  | missingCoefficients (order available : Nat)
  | unmapped (value : Int)
  | wrongTimeType
  deriving DecidableEq, Repr

/-- A failure that is reported as the answer. -/
inductive Error
  | io (reason : String)
  | notEnoughData (actual minimum : Nat)
  | invalidBitRange (start stop width : Nat)
  | conversionFailed (conversion : String) (fault : ConversionFault)
  | invalidLayout (fault : LayoutFault)
  deriving DecidableEq, Repr

/-- A failure that leaves no answer. -/
inductive Breach
  /-- Bytes were asked for that the buffer does not hold. -/
  | outOfBounds
  /-- A count or a size is not representable. -/
  | overflow
  /-- That many bytes after the primary header are more than its length field can count. -/
  | packetTooLong (length : Nat)
  deriving DecidableEq, Repr

namespace LayoutFault

/-- The text of a layout fault. -/
def message : LayoutFault → String
  | shortHeader headerLength => s!"header length {headerLength} is shorter than a VCDU header"
  | shortPointerField => "M_PDU header must hold a first header pointer"
  | noPacketZone frameLength overhead =>
    s!"frame length {frameLength} leaves no packet zone after {overhead} bytes of overhead"

end LayoutFault

namespace ConversionFault

/-- The text of a conversion fault. -/
def message : ConversionFault → String
  | textNotNumeric text => "String(" ++ Text.quoted text ++ ") is not numeric"
  | bytesNotNumeric bytes =>
    "Bytes([" ++ ", ".intercalate (bytes.map fun byte => toString byte.toNat) ++ "]) is not numeric"
  | missingCoefficients order available =>
    let needed := order + 1
    s!"order {order} needs {needed} coefficients, have {available}"
  | unmapped value => s!"no value for {value}"
  | wrongTimeType => "illegal time type"

end ConversionFault

namespace Error

/-- The text of an error. -/
def message : Error → String
  | io reason => reason
  | notEnoughData _ _ => "Not enough bytes"
  | invalidBitRange start stop width =>
    s!"invalid bit range {start}..={stop} for a {width} bit container"
  | conversionFailed conversion fault =>
    "conversion " ++ conversion ++ " failed: " ++ fault.message
  | invalidLayout fault => "invalid configuration: " ++ fault.message

end Error

namespace Breach

/-- The text of a breach that explains itself. -/
def message? : Breach → Option String
  | packetTooLong length =>
    some s!"{length} bytes after the primary header do not fit the length field"
  | _ => none

end Breach

end Downlink
