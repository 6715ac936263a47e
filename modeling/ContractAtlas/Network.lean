/-!
# Networks

A network has a short name, which leads every session key, and a block explorer host. The table is
ordered by the length of the host, longest first, so the first host that occurs in a domain is never
a proper part of another one that does.
-/

namespace ContractAtlas

/-- A supported network. -/
structure Network where
  name : String
  host : String
deriving DecidableEq, Repr

namespace Network

/-- The supported networks. -/
def supported : List Network :=
  [⟨"optim", "optimistic.etherscan.io"⟩,
   ⟨"mumbai", "testnet.polygonscan.com"⟩,
   ⟨"polyzk", "zkevm.polygonscan.com"⟩,
   ⟨"tobalaba", "tobalaba.etherscan.io"⟩,
   ⟨"testnet.avax", "testnet.snowtrace.io"⟩,
   ⟨"sepolia", "sepolia.etherscan.io"⟩,
   ⟨"testnet.bsc", "testnet.bscscan.com"⟩,
   ⟨"goerli", "goerli.etherscan.io"⟩,
   ⟨"goerli.base", "goerli.basescan.org"⟩,
   ⟨"testnet.arbi", "testnet.arbiscan.io"⟩,
   ⟨"poly", "polygonscan.com"⟩,
   ⟨"gno", "gnosisscan.io"⟩,
   ⟨"mainet", "etherscan.io"⟩,
   ⟨"base", "basescan.org"⟩,
   ⟨"avax", "snowtrace.io"⟩,
   ⟨"bsc", "bscscan.com"⟩,
   ⟨"arbi", "arbiscan.io"⟩,
   ⟨"ftm", "ftmscan.com"⟩]

/-- The network of a target without one. -/
def defaultName : String := "mainet"

/-- Whether a name is that of a supported network. -/
def isSupported (name : String) : Bool :=
  supported.any fun network => network.name = name

end Network

end ContractAtlas
