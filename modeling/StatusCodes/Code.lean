import StatusCodes.Category

/-!
# Codes

The closed table of outcomes that every subsystem shares. `success` is the one outcome that is
not a failure; every failure has a negative value. Values and names are published and never
renumbered, so each of them determines its code: `ofValue?` and `ofName?` are the inverses of
`value` and `name`, and they know nothing else.
-/

namespace StatusCodes

/-- An outcome of an operation. -/
inductive Code
  /-- Success. -/
  | success
  /-- Invalid parameter passed. -/
  | genInvalidParam
  /-- Memory allocation failed. -/
  | genNoMemory
  /-- Operation timed out. -/
  | genTimeout
  /-- No such file or directory. -/
  | fsNoEntry
  /-- I/O error. -/
  | fsIo
  /-- Permission denied. -/
  | fsAccess
  /-- File exists. -/
  | fsExists
  /-- Not a directory. -/
  | fsNotDir
  /-- Is a directory. -/
  | fsIsDir
  /-- Directory not empty. -/
  | fsNotEmpty
  /-- Filename too long. -/
  | fsNameTooLong
  /-- No such device. -/
  | deviceNoDevice
  /-- Device or resource busy. -/
  | deviceBusy
  /-- Device not responding. -/
  | deviceNoResponse
  /-- Out of memory. -/
  | memOutOfMemory
  /-- Invalid address. -/
  | memInvalidAddr
  /-- Broken pipe. -/
  | ipcPipe
  /-- Resource temporarily unavailable. -/
  | ipcAgain
  /-- System call interrupted. -/
  | sysInterrupted
  /-- Operation not supported. -/
  | sysNotSupported
  /-- Invalid operation. -/
  | sysInvalidOp
  deriving DecidableEq, Repr, Inhabited

namespace Code

/-- Every code, in table order. -/
def all : List Code :=
  [ .success,
    .genInvalidParam,
    .genNoMemory,
    .genTimeout,
    .fsNoEntry,
    .fsIo,
    .fsAccess,
    .fsExists,
    .fsNotDir,
    .fsIsDir,
    .fsNotEmpty,
    .fsNameTooLong,
    .deviceNoDevice,
    .deviceBusy,
    .deviceNoResponse,
    .memOutOfMemory,
    .memInvalidAddr,
    .ipcPipe,
    .ipcAgain,
    .sysInterrupted,
    .sysNotSupported,
    .sysInvalidOp ]

/-- The published number of the code. -/
def value : Code → Int
  | .success => 0
  | .genInvalidParam => -1
  | .genNoMemory => -2
  | .genTimeout => -3
  | .fsNoEntry => -4
  | .fsIo => -5
  | .fsAccess => -6
  | .fsExists => -7
  | .fsNotDir => -8
  | .fsIsDir => -9
  | .fsNotEmpty => -10
  | .fsNameTooLong => -11
  | .deviceNoDevice => -12
  | .deviceBusy => -13
  | .deviceNoResponse => -14
  | .memOutOfMemory => -15
  | .memInvalidAddr => -16
  | .ipcPipe => -17
  | .ipcAgain => -18
  | .sysInterrupted => -19
  | .sysNotSupported => -20
  | .sysInvalidOp => -21

/-- The published name of the code. -/
def name : Code → String
  | .success => "SUCCESS"
  | .genInvalidParam => "ERR_GEN_INVALID_PARAM"
  | .genNoMemory => "ERR_GEN_NO_MEMORY"
  | .genTimeout => "ERR_GEN_TIMEOUT"
  | .fsNoEntry => "ERR_FS_NO_ENTRY"
  | .fsIo => "ERR_FS_IO"
  | .fsAccess => "ERR_FS_ACCESS"
  | .fsExists => "ERR_FS_EXISTS"
  | .fsNotDir => "ERR_FS_NOT_DIR"
  | .fsIsDir => "ERR_FS_IS_DIR"
  | .fsNotEmpty => "ERR_FS_NOT_EMPTY"
  | .fsNameTooLong => "ERR_FS_NAME_TOO_LONG"
  | .deviceNoDevice => "ERR_DEVICE_NO_DEVICE"
  | .deviceBusy => "ERR_DEVICE_BUSY"
  | .deviceNoResponse => "ERR_DEVICE_NO_RESPONSE"
  | .memOutOfMemory => "ERR_MEM_OUT_OF_MEMORY"
  | .memInvalidAddr => "ERR_MEM_INVALID_ADDR"
  | .ipcPipe => "ERR_IPC_PIPE"
  | .ipcAgain => "ERR_IPC_AGAIN"
  | .sysInterrupted => "ERR_SYS_INTERRUPTED"
  | .sysNotSupported => "ERR_SYS_NOT_SUPPORTED"
  | .sysInvalidOp => "ERR_SYS_INVALID_OP"

/-- What the outcome means, for a reader. -/
def description : Code → String
  | .success => "Success"
  | .genInvalidParam => "Invalid parameter passed"
  | .genNoMemory => "Memory allocation failed"
  | .genTimeout => "Operation timed out"
  | .fsNoEntry => "No such file or directory"
  | .fsIo => "I/O error"
  | .fsAccess => "Permission denied"
  | .fsExists => "File exists"
  | .fsNotDir => "Not a directory"
  | .fsIsDir => "Is a directory"
  | .fsNotEmpty => "Directory not empty"
  | .fsNameTooLong => "Filename too long"
  | .deviceNoDevice => "No such device"
  | .deviceBusy => "Device or resource busy"
  | .deviceNoResponse => "Device not responding"
  | .memOutOfMemory => "Out of memory"
  | .memInvalidAddr => "Invalid address"
  | .ipcPipe => "Broken pipe"
  | .ipcAgain => "Resource temporarily unavailable"
  | .sysInterrupted => "System call interrupted"
  | .sysNotSupported => "Operation not supported"
  | .sysInvalidOp => "Invalid operation"

/-- The subsystem the failure comes from; success comes from none. -/
def category : Code → Option Category
  | .success => none
  | .genInvalidParam | .genNoMemory | .genTimeout => some .generic
  | .fsNoEntry | .fsIo | .fsAccess | .fsExists | .fsNotDir | .fsIsDir | .fsNotEmpty
  | .fsNameTooLong => some .filesystem
  | .deviceNoDevice | .deviceBusy | .deviceNoResponse => some .device
  | .memOutOfMemory | .memInvalidAddr => some .memory
  | .ipcPipe | .ipcAgain => some .ipc
  | .sysInterrupted | .sysNotSupported | .sysInvalidOp => some .system

/-- Whether the code denotes success. -/
def isSuccess (c : Code) : Bool :=
  c == .success

/-- Whether the code denotes a failure. -/
def isError (c : Code) : Bool :=
  !c.isSuccess

/-- The code as a 32-bit word. -/
def raw (c : Code) : Int32 :=
  Int32.ofInt c.value

/-- The code with a given value. -/
def ofValue? (v : Int) : Option Code :=
  all.find? fun c => c.value == v

/-- The code with a given name, spelled exactly. -/
def ofName? (s : String) : Option Code :=
  all.find? fun c => c.name == s

/-- A value on success, the code itself on failure. -/
def carry (c : Code) (value : α) : Except Code α :=
  if c.isError then .error c else .ok value

/-- Success or the failure, without a value. -/
def check (c : Code) : Except Code Unit :=
  c.carry ()

/-- The code with its number and its meaning, on one line. -/
def display (c : Code) : String :=
  s!"{c.name} ({c.value}): {c.description}"

/-- A word in small letters but for its first. -/
def capitalised : List Char → List Char
  | [] => []
  | c :: rest => c.toUpper :: rest.map Char.toLower

/-- The name without its `ERR_`, each word capitalised and joined to the next: `FsNoEntry`. -/
def joinedName (c : Code) : String :=
  let words := c.name.toList.splitOn '_'
  String.ofList ((words.filter (· != "ERR".toList)).flatMap capitalised)

theorem mem_all (c : Code) : c ∈ all := by
  cases c <;> decide

theorem isError_iff {c : Code} : c.isError = true ↔ c ≠ .success := by
  simp [isError, isSuccess]

theorem value_injective {c d : Code} (h : c.value = d.value) : c = d := by
  revert h
  cases c <;> cases d <;> decide

/-- Every failure comes from some subsystem. -/
theorem exists_category {c : Code} (h : c ≠ .success) : ∃ k, c.category = some k := by
  cases c with
  | success => exact absurd rfl h
  | _ => exact ⟨_, rfl⟩

/-- Values run from -21 to 0. -/
theorem value_bounds (c : Code) : -21 ≤ c.value ∧ c.value ≤ 0 := by
  cases c <;> decide

theorem value_neg_iff {c : Code} : c.value < 0 ↔ c ≠ .success := by
  cases c <;> decide

@[simp] theorem raw_toInt (c : Code) : c.raw.toInt = c.value := by
  cases c <;> decide

theorem ofValue?_eq_some_iff {v : Int} {c : Code} : ofValue? v = some c ↔ v = c.value := by
  constructor
  · intro h
    have := List.find?_some h
    simpa using (beq_iff_eq.mp this).symm
  · rintro rfl
    cases c <;> decide

@[simp] theorem ofValue?_value (c : Code) : ofValue? c.value = some c :=
  ofValue?_eq_some_iff.mpr rfl

@[simp] theorem ofName?_name (c : Code) : ofName? c.name = some c := by
  cases c <;> decide

theorem ofName?_eq_some_iff {s : String} {c : Code} : ofName? s = some c ↔ s = c.name := by
  constructor
  · intro h
    have := List.find?_some h
    exact (beq_iff_eq.mp this).symm
  · rintro rfl
    exact ofName?_name c

/-- The table is consistent: the name of a code spells its category. -/
theorem ofCodeName?_name (c : Code) : Category.ofCodeName? c.name = c.category := by
  cases c <;> decide

end Code

/-- The codes of a category, in table order. -/
def Category.codes (k : Category) : List Code :=
  Code.all.filter fun c => c.category == some k

theorem Category.mem_codes {k : Category} {c : Code} :
    c ∈ k.codes ↔ c.category = some k := by
  simp [codes, Code.mem_all]

end StatusCodes
