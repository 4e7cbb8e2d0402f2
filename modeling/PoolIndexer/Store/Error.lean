import PoolIndexer.Table

/-!
How a store can fail.
-/
namespace PoolIndexer

inductive StorageError
  /-- A batch does not fit its table. -/
  | refused (fault : ValidationError)
  /-- A row fits its table but is no record of it. -/
  | undecodable
  | unknownTable (name : String)
  /-- A statement failed, or its result is not of the wanted form. -/
  | statement
  /-- What holds the checkpoint or a count holds no number: there is no going on with it. -/
  | unusable
  /-- No connection could be had. -/
  | noConnection
  /-- A stored number is no integer. -/
  | invalidNumeric (text column : String)
  /-- An operation failed for the stated reason. -/
  | failed (reason : String)

def StorageError.message : StorageError → String
  | .refused fault => fault.message
  | .undecodable => "a row does not decode into a record"
  | .unknownTable name => "Unknown table " ++ name
  | .statement => "a statement failed"
  | .unusable => "the store is unusable"
  | .noConnection => "no connection"
  | .invalidNumeric text column => "Invalid numeric `" ++ text ++ "` in " ++ column
  | .failed reason => reason

end PoolIndexer
