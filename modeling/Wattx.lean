import Wattx.Block
import Wattx.PrimalityTest
import Wattx.GapcoinProof
import Wattx.GapcoinDifficulty
import Wattx.SmallPrimes
import Wattx.GapcoinSieve
import Wattx.GapcoinMiner
import Wattx.GapcoinMineThread
import Wattx.GapcoinStats
import Wattx.RandomXEngine
import Wattx.RandomXMining
import Wattx.Json
import Wattx.StratumJobs
import Wattx.Stratum
import Wattx.ClientFraming
import Wattx.ResponseIds
import Wattx.StratumSessions
import Wattx.JobHistory
import Wattx.ShareValidation
import Wattx.LockDiscipline
import Wattx.JobThread
import Wattx.JobDelivery
import Wattx.GapcoinMiningLoop
