import ScriptEnv.Json.Reader

namespace ScriptEnv

structure Tuning where
  maxConnections : UInt32
  acquireTimeout : UInt64
  queryTimeout : UInt64
  deriving DecidableEq, Repr

namespace Tuning

def standard : Tuning := ⟨5, 10, 30⟩

instance : Inhabited Tuning := ⟨standard⟩

def poolSize (t : Tuning) : Nat := max 1 t.maxConnections.toNat

structure Partial where
  maxConnections : Option UInt32
  acquireTimeout : Option UInt64
  queryTimeout : Option UInt64

def Partial.empty : Partial := ⟨none, none, none⟩

def Partial.complete (p : Partial) : Tuning :=
  ⟨p.maxConnections.getD standard.maxConnections, p.acquireTimeout.getD standard.acquireTimeout,
    p.queryTimeout.getD standard.queryTimeout⟩

def record : Json.Record Partial Tuning where
  name := "EngineConfig"
  start := .empty
  finish p := .ok p.complete
  fields :=
    [⟨"max_connections", fun p ↦ p.maxConnections.isSome,
        fun p s ↦ (Json.naturalUpTo "u32" (Number.twoTo 32 - 1) s).map fun (n, r) ↦
          ({ p with maxConnections := some (.ofNat n) }, r), true⟩,
      ⟨"acquire_timeout_secs", fun p ↦ p.acquireTimeout.isSome,
        fun p s ↦ (Json.naturalUpTo "u64" (Number.twoTo 64 - 1) s).map fun (n, r) ↦
          ({ p with acquireTimeout := some (.ofNat n) }, r), true⟩,
      ⟨"query_timeout_secs", fun p ↦ p.queryTimeout.isSome,
        fun p s ↦ (Json.naturalUpTo "u64" (Number.twoTo 64 - 1) s).map fun (n, r) ↦
          ({ p with queryTimeout := some (.ofNat n) }, r), true⟩]

def toJson (t : Tuning) : Json :=
  .object
    [("max_connections", .natural t.maxConnections.toNat),
      ("acquire_timeout_secs", .natural t.acquireTimeout.toNat),
      ("query_timeout_secs", .natural t.queryTimeout.toNat)]

def describe (t : Tuning) : String :=
  let fields := s!"max_connections: {t.maxConnections}, acquire_timeout_secs: {t.acquireTimeout}"
    ++ s!", query_timeout_secs: {t.queryTimeout}"
  "EngineConfig \x7b " ++ fields ++ " \x7d"

end Tuning

end ScriptEnv
