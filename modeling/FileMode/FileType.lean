namespace FileMode

inductive FileType
  | regular
  | link
  | directory
  | characterDevice
  | blockDevice
  | fifo
  | socket
  deriving DecidableEq

namespace FileType

def all : List FileType :=
  [regular, link, directory, characterDevice, blockDevice, fifo, socket]

def code : FileType → BitVec 4
  | regular => 0o10
  | link => 0o12
  | directory => 0o04
  | characterDevice => 0o02
  | blockDevice => 0o06
  | fifo => 0o01
  | socket => 0o14

def name : FileType → String
  | regular => "regular"
  | link => "link"
  | directory => "directory"
  | characterDevice => "character device"
  | blockDevice => "block device"
  | fifo => "fifo"
  | socket => "socket"

def ofCode? (c : BitVec 4) : Option FileType := all.find? (·.code = c)

end FileType

end FileMode
