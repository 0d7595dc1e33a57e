import Mathlib.Data.Int.Notation
import Mathlib.Data.List.Basic

/-!
# Hosts of storage buckets: `muim/bucket/host.cpp`

A `BucketHost` serves the pages that have opened a storage bucket.  It keeps what it knows of the
bucket in `bucket_info_`, which is null once the bucket is known to be gone.  What a page asks is
passed on: to the quota manager, whose reply updates `bucket_info_` before the page is answered, or
to the context of the page, which binds a store or a directory.

Callbacks are numbered as they come in.  A callback that is passed on waits in `quota` or in
`directories`; one that has been run stands in `runs`, with what it was run with; a callback that
is in none of them has been dropped.  `requests` are the calls that have left the host.  The context
of a receiver is a weak pointer, which may be invalidated at any time.

What is not in the repository answers by the events: what the quota manager and the file system
reply, whether a permission is granted, and whether there is a state checker.  The host is alive
throughout.
-/

namespace TorOnion

/-- `blink::mojom::BucketDurability`. -/
inductive BucketDurability
  | relaxed
  | strict
  deriving DecidableEq

/-- `storage::BucketInfo`, as far as the host reads it.  The null values of `BucketId` and of
`base::Time` are 0. -/
structure BucketInfo where
  id : ℤ
  persistent : Bool
  durability : BucketDurability
  expiration : ℤ
  deriving DecidableEq

/-- `BucketInfo::is_null`. -/
def BucketInfo.isNull (info : BucketInfo) : Prop := info.id = 0

instance (info : BucketInfo) : Decidable info.isNull := inferInstanceAs (Decidable (_ = _))

/-- `storage::BucketInfo()`, of which only the id need be initialised. -/
abbrev NullBucketInfo := {info : BucketInfo // info.isNull}

/-- `blink::mojom::QuotaStatusCode`, and whether it is `kOk`. -/
inductive QuotaStatusCode
  | kOk
  | other (code : ℤ)
  deriving DecidableEq

/-- What a callback is run with. -/
inductive BucketReply
  /-- `PersistCallback` and `PersistedCallback`. -/
  | persisted (persisted success : Bool)
  | estimate (usage quota : ℤ) (success : Bool)
  /-- Without a durability, `{}`: which of the two that is is not in the repository. -/
  | durability (durability : Option BucketDurability) (success : Bool)
  | setExpires (success : Bool)
  | expires (expires : Option ℤ) (success : Bool)
  /-- `GetDirectoryCallback`, with or without a directory. -/
  | directory (success : Bool)
  deriving DecidableEq

/-- A reply reports success. -/
def BucketReply.success : BucketReply → Bool
  | .persisted _ success => success
  | .estimate _ _ success => success
  | .durability _ success => success
  | .setExpires success => success
  | .expires _ success => success
  | .directory success => success

/-- A call that leaves the host. -/
inductive BucketRequest
  | updateBucketPersistence (bucketId : ℤ) (persistent : Bool)
  | getBucketById (bucketId : ℤ)
  | getBucketUsageAndReportedQuota (bucketId : ℤ)
  | updateBucketExpiration (bucketId expires : ℤ)
  | bindIndexedDB (info : BucketInfo)
  | bindCacheStorageForBucket (context : ℕ) (info : BucketInfo)
  | getSandboxedFileSystemForBucket (context : ℕ) (info : BucketInfo)
      (directoryPathComponents : List String)
  | bindLockManager (bucketId : ℤ)
  deriving DecidableEq

/-- What is bound behind `DidGetBucket`. -/
inductive AfterGetBucket
  | didValidateForPersist
  | didValidateForDurability
  | didValidateForExpires
  /-- The callback of `SetExpires` itself. -/
  | setExpires
  deriving DecidableEq

/-- What the quota manager is to call. -/
inductive QuotaCallback
  | didGetBucket (after : AfterGetBucket)
  | didGetUsageAndQuota
  deriving DecidableEq

/-- `BucketHost`. -/
structure BucketHost where
  bucketInfo : BucketInfo
  bucketId : ℤ
  /-- The contexts of `receivers_`, in the order in which they were added. -/
  receivers : List ℕ
  /-- The contexts whose weak pointers are invalid. -/
  invalidated : List ℕ
  /-- The number of the next callback. -/
  issued : ℕ
  /-- What waits for the quota manager, with the number of its callback. -/
  quota : List (ℕ × QuotaCallback)
  /-- The callbacks that wait for the file system. -/
  directories : List ℕ
  runs : List (ℕ × BucketReply)
  requests : List BucketRequest
  deriving DecidableEq

/-- A method that a page calls, with what is answered from outside. -/
inductive BucketOp
  /-- The permission status of the context is `GRANTED`. -/
  | persist (granted : Bool)
  | persisted
  | estimate
  | durability
  | setExpires (expires : ℤ)
  | expires
  /-- There is a state checker. -/
  | getIdbFactory (stateChecker : Bool)
  | getCaches
  | getDirectory
  | getDirectoryForDevtools (directoryPathComponents : List String)
  | getLockManager
  deriving DecidableEq

/-- What happens to a host. -/
inductive BucketEvent
  | passStorageBucketBinding (context : ℕ)
  | invalidate (context : ℕ)
  | call (receiver : ℕ) (op : BucketOp)
  /-- The quota manager runs the callback at a place, with a bucket or without. -/
  | bucketReply (place : ℕ) (bucketInfo : Option BucketInfo)
  | usageReply (place : ℕ) (code : QuotaStatusCode) (usage quota : ℤ)
  | directoryReply (place : ℕ) (success : Bool)
  deriving DecidableEq

namespace BucketHost

/-- A new host. -/
def new (bucketInfo : BucketInfo) : BucketHost :=
  ⟨bucketInfo, bucketInfo.id, [], [], 0, [], [], [], []⟩

/-- `receivers_.current_context()`, while a call of this receiver is served. -/
def currentContext (s : BucketHost) (receiver : ℕ) : Option ℕ :=
  s.receivers[receiver]?.filter (· ∉ s.invalidated)

/-! ## What becomes of a callback -/

/-- The callback is run at once. -/
def answer (reply : BucketReply) (s : BucketHost) : BucketHost :=
  { s with runs := s.runs ++ [(s.issued, reply)], issued := s.issued + 1 }

/-- The callback is bound to what the quota manager is to call. -/
def ask (request : BucketRequest) (callback : QuotaCallback) (s : BucketHost) : BucketHost :=
  { s with
    requests := s.requests ++ [request]
    quota := s.quota ++ [(s.issued, callback)]
    issued := s.issued + 1 }

/-- The callback is passed on to the context. -/
def askDirectory (request : BucketRequest) (s : BucketHost) : BucketHost :=
  { s with
    requests := s.requests ++ [request]
    directories := s.directories ++ [s.issued]
    issued := s.issued + 1 }

/-- The method returns, and the callback goes with it. -/
def drop (s : BucketHost) : BucketHost := { s with issued := s.issued + 1 }

/-- A call without a callback. -/
def request (request : BucketRequest) (s : BucketHost) : BucketHost :=
  { s with requests := s.requests ++ [request] }

/-! ## The methods -/

/-- `BucketHost::Persist`. -/
def persist (receiver : ℕ) (granted : Bool) (s : BucketHost) : BucketHost :=
  if s.bucketInfo.isNull ∨ s.currentContext receiver = none then
    answer (.persisted false false) s
  else if s.bucketInfo.persistent then answer (.persisted true true) s
  else if granted then
    ask (.updateBucketPersistence s.bucketId true) (.didGetBucket .didValidateForPersist) s
  else answer (.persisted false true) s

/-- `BucketHost::Persisted`. -/
def persisted (s : BucketHost) : BucketHost :=
  if s.bucketInfo.isNull then answer (.persisted false false) s
  else ask (.getBucketById s.bucketId) (.didGetBucket .didValidateForPersist) s

/-- `BucketHost::Estimate`. -/
def estimate (s : BucketHost) : BucketHost :=
  if s.bucketInfo.isNull then answer (.estimate 0 0 false) s
  else ask (.getBucketUsageAndReportedQuota s.bucketId) .didGetUsageAndQuota s

/-- `BucketHost::Durability`. -/
def durability (s : BucketHost) : BucketHost :=
  if s.bucketInfo.isNull then answer (.durability none false) s
  else ask (.getBucketById s.bucketId) (.didGetBucket .didValidateForDurability) s

/-- `BucketHost::SetExpires`. -/
def setExpires (expires : ℤ) (s : BucketHost) : BucketHost :=
  ask (.updateBucketExpiration s.bucketId expires) (.didGetBucket .setExpires) s

/-- `BucketHost::Expires`. -/
def expires (s : BucketHost) : BucketHost :=
  if s.bucketInfo.isNull then answer (.expires none false) s
  else ask (.getBucketById s.bucketId) (.didGetBucket .didValidateForExpires) s

/-- `BucketHost::GetIdbFactory`. -/
def getIdbFactory (receiver : ℕ) (stateChecker : Bool) (s : BucketHost) : BucketHost :=
  match s.currentContext receiver with
  | none => s
  | some _ => if stateChecker then request (.bindIndexedDB s.bucketInfo) s else s

/-- `BucketHost::GetCaches`. -/
def getCaches (receiver : ℕ) (s : BucketHost) : BucketHost :=
  match s.currentContext receiver with
  | none => s
  | some context => request (.bindCacheStorageForBucket context s.bucketInfo) s

/-- `BucketHost::GetDirectoryForDevtools`. -/
def getDirectoryForDevtools (receiver : ℕ) (directoryPathComponents : List String)
    (s : BucketHost) : BucketHost :=
  match s.currentContext receiver with
  | none => drop s
  | some context =>
      askDirectory
        (.getSandboxedFileSystemForBucket context s.bucketInfo directoryPathComponents) s

/-- `BucketHost::GetDirectory`. -/
def getDirectory (receiver : ℕ) (s : BucketHost) : BucketHost :=
  match s.currentContext receiver with
  | none => drop s
  | some context => askDirectory (.getSandboxedFileSystemForBucket context s.bucketInfo []) s

/-- `BucketHost::GetLockManager`. -/
def getLockManager (s : BucketHost) : BucketHost := request (.bindLockManager s.bucketId) s

/-- A method is called. -/
def perform (receiver : ℕ) : BucketOp → BucketHost → BucketHost
  | .persist granted => persist receiver granted
  | .persisted => persisted
  | .estimate => estimate
  | .durability => durability
  | .setExpires t => setExpires t
  | .expires => expires
  | .getIdbFactory stateChecker => getIdbFactory receiver stateChecker
  | .getCaches => getCaches receiver
  | .getDirectory => getDirectory receiver
  | .getDirectoryForDevtools components => getDirectoryForDevtools receiver components
  | .getLockManager => getLockManager

/-! ## Replies -/

/-- A callback is run. -/
def run (callback : ℕ) (reply : BucketReply) (s : BucketHost) : BucketHost :=
  { s with runs := s.runs ++ [(callback, reply)] }

/-- `BucketHost::DidValidateForPersist`. -/
def didValidateForPersist (callback : ℕ) (bucketExists : Bool) (s : BucketHost) : BucketHost :=
  run callback (.persisted s.bucketInfo.persistent bucketExists) s

/-- `BucketHost::DidValidateForDurability`. -/
def didValidateForDurability (callback : ℕ) (bucketExists : Bool) (s : BucketHost) : BucketHost :=
  run callback (.durability (some s.bucketInfo.durability) bucketExists) s

/-- `BucketHost::DidValidateForExpires`. -/
def didValidateForExpires (callback : ℕ) (bucketExists : Bool) (s : BucketHost) : BucketHost :=
  run callback (.expires (if bucketExists ∧ s.bucketInfo.expiration ≠ 0 then
    some s.bucketInfo.expiration else none) bucketExists) s

/-- `BucketHost::DidGetBucket`. -/
def didGetBucket (null : NullBucketInfo) (after : AfterGetBucket) (callback : ℕ)
    (bucketInfo : Option BucketInfo) (s : BucketHost) : BucketHost :=
  let s := { s with bucketInfo := bucketInfo.getD null }
  match after with
  | .didValidateForPersist => didValidateForPersist callback bucketInfo.isSome s
  | .didValidateForDurability => didValidateForDurability callback bucketInfo.isSome s
  | .didValidateForExpires => didValidateForExpires callback bucketInfo.isSome s
  | .setExpires => run callback (.setExpires bucketInfo.isSome) s

/-- `BucketHost::DidGetUsageAndQuota`. -/
def didGetUsageAndQuota (null : NullBucketInfo) (callback : ℕ) (code : QuotaStatusCode)
    (usage quota : ℤ) (s : BucketHost) : BucketHost :=
  let s := if code = .kOk then s else { s with bucketInfo := null }
  run callback (.estimate usage quota (code = .kOk)) s

/-- What waits at this place is taken out. -/
def takeQuota (place : ℕ) (s : BucketHost) : BucketHost :=
  { s with quota := s.quota.eraseIdx place }

def takeDirectory (place : ℕ) (s : BucketHost) : BucketHost :=
  { s with directories := s.directories.eraseIdx place }

/-- What an event does.  Only what is there can happen: a receiver that has been added can call,
and what waits can be replied to, by a reply of its kind. -/
def step (null : NullBucketInfo) (s : BucketHost) : BucketEvent → Option BucketHost
  | .passStorageBucketBinding context =>
      if context ∈ s.invalidated then none
      else some { s with receivers := s.receivers ++ [context] }
  | .invalidate context => some { s with invalidated := context :: s.invalidated }
  | .call receiver op =>
      if receiver < s.receivers.length then some (perform receiver op s) else none
  | .bucketReply place bucketInfo =>
      match s.quota[place]? with
      | some (callback, .didGetBucket after) =>
          some (didGetBucket null after callback bucketInfo (takeQuota place s))
      | _ => none
  | .usageReply place code usage quota =>
      match s.quota[place]? with
      | some (callback, .didGetUsageAndQuota) =>
          some (didGetUsageAndQuota null callback code usage quota (takeQuota place s))
      | _ => none
  | .directoryReply place success =>
      match s.directories[place]? with
      | some callback => some (run callback (.directory success) (takeDirectory place s))
      | none => none

end BucketHost

end TorOnion
