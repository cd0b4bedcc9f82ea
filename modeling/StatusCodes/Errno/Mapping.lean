import StatusCodes.Code

/-!
# Host error numbers and codes

The host reports failures as numbers of its own, of which some have a counterpart among our
codes. Kernels hand the same numbers back negated, so the sign is left out of account. The most
negative word has no positive counterpart, and is unknown because no table entry is that large.

The two directions are tables of their own: several numbers lead to one code, and two codes share
the number of a more specific one, so a round trip is exact only for the others.
-/

namespace StatusCodes.Errno

/-- The code of an error number, taken without its sign. -/
def codeOfMagnitude? : Nat → Option Code
  | 0 => some .success
  | 1 => some .sysInvalidOp
  | 2 => some .fsNoEntry
  | 4 => some .sysInterrupted
  | 5 => some .fsIo
  | 6 => some .deviceNoDevice
  | 11 => some .ipcAgain
  | 12 => some .memOutOfMemory
  | 13 => some .fsAccess
  | 14 => some .memInvalidAddr
  | 16 => some .deviceBusy
  | 17 => some .fsExists
  | 19 => some .deviceNoDevice
  | 20 => some .fsNotDir
  | 21 => some .fsIsDir
  | 22 => some .genInvalidParam
  | 32 => some .ipcPipe
  | 36 => some .fsNameTooLong
  | 38 => some .sysNotSupported
  | 39 => some .fsNotEmpty
  | 95 => some .sysNotSupported
  | 110 => some .genTimeout
  | _ => none

/-- The code that a host error number has a counterpart in. -/
def lookup (n : Int32) : Option Code :=
  codeOfMagnitude? n.toInt.natAbs

/-- The code of a host error number; one without a counterpart is an invalid operation. -/
def toCode (n : Int32) : Code :=
  (lookup n).getD .sysInvalidOp

/-- The host error number that comes closest to a code. -/
def ofCode : Code → Int32
  | .success => 0
  | .genInvalidParam => 22
  | .genNoMemory => 12
  | .genTimeout => 110
  | .fsNoEntry => 2
  | .fsIo => 5
  | .fsAccess => 13
  | .fsExists => 17
  | .fsNotDir => 20
  | .fsIsDir => 21
  | .fsNotEmpty => 39
  | .fsNameTooLong => 36
  | .deviceNoDevice => 19
  | .deviceBusy => 16
  | .deviceNoResponse => 5
  | .memOutOfMemory => 12
  | .memInvalidAddr => 14
  | .ipcPipe => 32
  | .ipcAgain => 11
  | .sysInterrupted => 4
  | .sysNotSupported => 38
  | .sysInvalidOp => 1

@[simp] theorem lookup_zero : lookup 0 = some .success := by decide

end StatusCodes.Errno
