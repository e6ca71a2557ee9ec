import DeviceCode.Assoc
import DeviceCode.Error
import DeviceCode.Handle

/-!
# Devices and the current device of a thread

A table holds the devices that a program knows. Each thread has a current device of its own in each
table: what it bound last there, as the table reports it now. Bindings are kept by thread and table,
so neither another thread nor another table can change them. A table that is dropped takes along
only the binding of the thread that drops it; numbers of tables are never used again.
-/

namespace DeviceCode

/-- An accelerator as the program sees it. -/
structure Device where
  id : Nat
  agent : AgentHandle
  /-- The queue for launches that name none. -/
  defaultQueue : QueueHandle
  deriving DecidableEq, Repr

/-- Numbers of threads. -/
abbrev ThreadId := Nat

/-- Numbers of device tables. -/
abbrev TableId := Nat

/-- All device tables of a program and all bindings of its threads. -/
structure Devices where
  nextTable : TableId := 1
  tables : Assoc TableId (List Device) := {}
  /-- The current device id of a thread in a table. -/
  bindings : Assoc (ThreadId × TableId) Nat := {}
  deriving DecidableEq, Repr

namespace Devices

variable (ds : Devices)

/-- A new table with these devices, bound to no thread. -/
def create (devices : List Device) : TableId × Devices :=
  (ds.nextTable, { ds with
    nextTable := ds.nextTable + 1
    tables := ds.tables.put ds.nextTable devices })

/-- The devices of a table. -/
def devices (table : TableId) : List Device := (ds.tables.get? table).getD []

/-- The device of a given id. -/
def device? (table : TableId) (id : Nat) : Option Device :=
  (ds.devices table).find? (·.id == id)

/-- Add a device; one with the same id is replaced. -/
def add (table : TableId) (d : Device) : Devices :=
  { ds with tables := ds.tables.put table ((ds.devices table).filter (·.id != d.id) ++ [d]) }

/-- Make a device current for a thread. The table must know it. -/
def setCurrent (thread : ThreadId) (table : TableId) (id : Nat) : Except InvalidValue Devices :=
  if (ds.device? table id).isSome then
    .ok { ds with bindings := ds.bindings.put (thread, table) id }
  else .error (.unknownDevice id)

/-- Leave a thread without a current device in a table. -/
def clearCurrent (thread : ThreadId) (table : TableId) : Devices :=
  { ds with bindings := ds.bindings.erase (thread, table) }

/-- The current device of a thread in a table. -/
def current? (thread : ThreadId) (table : TableId) : Option Device :=
  (ds.bindings.get? (thread, table)).bind (ds.device? table)

/-- A thread drops a table. -/
def drop (thread : ThreadId) (table : TableId) : Devices :=
  { ds with
    tables := ds.tables.erase table
    bindings := ds.bindings.erase (thread, table) }

end Devices

end DeviceCode
