import Zaino.LittleEndian
import Zaino.Utils
import Zaino.CompactSize
import Zaino.ScriptNumber
import Zaino.BlockHeader
import Zaino.FullBlock
import Zaino.Connector
import Zaino.Ingestor
import Zaino.Indexer
